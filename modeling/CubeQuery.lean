import CubeQuery.BucketSet
import CubeQuery.Cache
import CubeQuery.Cache.Locks
import CubeQuery.Checked
import CubeQuery.Command
import CubeQuery.Command.Arguments
import CubeQuery.Command.Directory
import CubeQuery.Command.Outcome
import CubeQuery.Condition
import CubeQuery.ConditionType
import CubeQuery.Construction
import CubeQuery.Criteria
import CubeQuery.Datastore
import CubeQuery.Double
import CubeQuery.Double.Reading
import CubeQuery.Double.Shortest
import CubeQuery.Engine
import CubeQuery.Error
import CubeQuery.Execution.Arithmetic
import CubeQuery.Execution.Buckets
import CubeQuery.Execution.Evaluation
import CubeQuery.Execution.Executor
import CubeQuery.Execution.Fetch
import CubeQuery.Execution.Order
import CubeQuery.Execution.Schedule
import CubeQuery.Execution.Shift
import CubeQuery.Execution.Shifter
import CubeQuery.Execution.Totals
import CubeQuery.Execution.Transformer
import CubeQuery.Field
import CubeQuery.FieldType
import CubeQuery.Graph
import CubeQuery.Graph.Cycle
import CubeQuery.Graph.Layer
import CubeQuery.Graph.Tree
import CubeQuery.Json
import CubeQuery.Json.Number
import CubeQuery.Json.Reader
import CubeQuery.Json.Token
import CubeQuery.Main
import CubeQuery.Measure
import CubeQuery.Memory.Aggregate
import CubeQuery.Memory.Database
import CubeQuery.Memory.Row
import CubeQuery.Period
import CubeQuery.Plan.Arena
import CubeQuery.Plan.Discovery
import CubeQuery.Plan.Lowering
import CubeQuery.Plan.Plan
import CubeQuery.Plan.Reference
import CubeQuery.Plan.Resolver
import CubeQuery.Plan.Scope
import CubeQuery.Query
import CubeQuery.Sample.Sales
import CubeQuery.ScopeKey
import CubeQuery.Settings
import CubeQuery.Settings.Environment
import CubeQuery.Settings.Error
import CubeQuery.Settings.Expansion
import CubeQuery.Sha256
import CubeQuery.SortedMap
import CubeQuery.Sql.Criteria
import CubeQuery.Sql.Dialect
import CubeQuery.Sql.GroupBy
import CubeQuery.Sql.GroupingMarker
import CubeQuery.Sql.Quoting
import CubeQuery.Sql.Statement
import CubeQuery.Sql.Text
import CubeQuery.Sql.TypedField
import CubeQuery.Table
import CubeQuery.Table.Text
import CubeQuery.Text.Alphanumeric
import CubeQuery.Text.Blank
import CubeQuery.Text.CharRange
import CubeQuery.Text.DecimalDigit
import CubeQuery.Text.HexDigit
import CubeQuery.Text.Integer
import CubeQuery.Text.LowerCase
import CubeQuery.Toml
import CubeQuery.Toml.Document
import CubeQuery.Toml.Quoted
import CubeQuery.Toml.Reader
import CubeQuery.Toml.Scalar
import CubeQuery.Value
import CubeQuery.Value.Hash
import CubeQuery.Value.Order
import CubeQuery.Wire.Call
import CubeQuery.Wire.Exact
import CubeQuery.Wire.Field
import CubeQuery.Wire.Measure
import CubeQuery.Wire.Query
import CubeQuery.Wire.Record
import CubeQuery.Wire.Statement
import CubeQuery.Wire.Table
import CubeQuery.Proofs.GroupingSets
import CubeQuery.Proofs.Graph.Layers
import CubeQuery.Proofs.Plan.Discovery
import CubeQuery.Proofs.Plan.DerivedScopes
import CubeQuery.Proofs.Plan.Termination
import CubeQuery.Proofs.Plan.Planned
import CubeQuery.Proofs.Execution.Dependencies
import CubeQuery.Proofs.Table
import CubeQuery.Proofs.Execution.Faults
import CubeQuery.Proofs.Execution.Recursive
import CubeQuery.Proofs.Execution.Layered
import CubeQuery.Proofs.Engine
import CubeQuery.Proofs.Plan.Lowering
import CubeQuery.Proofs.Plan.Tasks
import CubeQuery.Proofs.Cache.Entries
import CubeQuery.Proofs.Cache.Fetching
import CubeQuery.Proofs.Cache.Hits
import CubeQuery.Proofs.Execution.Followers
import CubeQuery.Proofs.Execution.SideBySide
import CubeQuery.Proofs.Execution.Results
import CubeQuery.Proofs.Cache.Runs
import CubeQuery.Proofs.Cache.Transparency
import CubeQuery.Proofs.Memory.Lines
import CubeQuery.Proofs.Cache.Fresh
import CubeQuery.Proofs.Restriction.Evaluation
import CubeQuery.Proofs.Restriction.Totals
import CubeQuery.Proofs.Restriction.Results
import CubeQuery.Proofs.Plan.PeriodReference
import CubeQuery.Proofs.Execution.MarkedTotals
import CubeQuery.Proofs.Plan.Exactness
import CubeQuery.Proofs.Order
import CubeQuery.Proofs.Json.Reading
import CubeQuery.Proofs.Wire.Query
import CubeQuery.Proofs.Execution.DryRun
import CubeQuery.Proofs.Sql.Writing
import CubeQuery.Proofs.Plan.Compilable
import CubeQuery.Proofs.Double.Shortest
import CubeQuery.Proofs.Json.Literals
import CubeQuery.Proofs.Json.Text
import CubeQuery.Proofs.Plan.ScopeText
import CubeQuery.Proofs.Cache.Repetition
import CubeQuery.Proofs.Sql.Acceptance
import CubeQuery.Proofs.Cache.Counters
import CubeQuery.Proofs.Cache.Accounting
import CubeQuery.Proofs.Memory.Rows
import CubeQuery.Proofs.Execution.VectorRows
import CubeQuery.Proofs.Execution.Vectors
import CubeQuery.Proofs.Execution.ParentRows
import CubeQuery.Proofs.Graph.CallLayers
import CubeQuery.Proofs.Execution.ColumnNames
import CubeQuery.Proofs.Plan.Visibility
import CubeQuery.Proofs.Criteria.Pruning
import CubeQuery.Proofs.Plan.ComparisonChains
import CubeQuery.Proofs.Plan.UnknownTables
import CubeQuery.Proofs.Sql.OutputNames
import CubeQuery.Proofs.Execution.PeriodShifts
import CubeQuery.Proofs.Execution.UnshiftedPeriods
import CubeQuery.Proofs.Execution.Ordering
import CubeQuery.Proofs.Cache.Eviction
import CubeQuery.Proofs.Plan.Registration
import CubeQuery.Proofs.Table.Operations
import CubeQuery.Proofs.Execution.AxisOrder
import CubeQuery.Proofs.Sql.Filters
import CubeQuery.Proofs.Execution.BucketShifts
import CubeQuery.Proofs.Sql.VirtualTables
import CubeQuery.Proofs.Execution.PointIndex
import CubeQuery.Proofs.Execution.Positions
import CubeQuery.Proofs.Sql.GroupingMarker
import CubeQuery.Proofs.Settings.Expansion
import CubeQuery.Proofs.Graph.Tree
