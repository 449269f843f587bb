import CubeQuery.Execution.Arithmetic
import CubeQuery.Execution.Shifter
import CubeQuery.Execution.Transformer
import CubeQuery.Plan.Plan
import CubeQuery.Table

/-!
Evaluation of the measures that are computed in memory. Nodes are evaluated layer by layer, each
into a column of the table of its scope, so the columns that a node reads are there before it.
-/

namespace CubeQuery

def Table.lift {α : Type} (result : Except TableError α) : Except QueryError α :=
  result.mapError .table

/-- The type that a computed column shows: that of its first value that is not null. -/
def inferredType (values : List Value) : FieldType :=
  match values.find? fun value => !value.isNull with
  | some value => value.fieldType
  | none => .double

/-! ### Columns -/

def BinaryOperator.column (operator : BinaryOperator) (left right : String) (current : Table) :
    Except QueryError (List Value) := do
  let leftColumn ← Table.lift (current.column left)
  let rightColumn ← Table.lift (current.column right)
  return List.zipWith operator.apply leftColumn.values rightColumn.values

/-- The reference value of a row, null if the shift leads to no row. -/
def Shifter.referenceValue (shifter : Shifter) (reference : Table) (grouping : List Column)
    (operand : Column) (point : List Value) : Value :=
  match (shifter.shift point).bind (reference.lastRowAt? grouping) with
  | some row => operand.cell row
  | none => .null

/-- Relates the operand at every row of `current` to the operand at its row of `reference`. -/
def ComparisonMethod.column (method : ComparisonMethod) (operand : String) (current reference : Table)
    (shifterOf : List String → Except QueryError Shifter) : Except QueryError (List Value) := do
  let grouping ← Table.lift (reference.columnsNamed current.groupingNames)
  let shifter ← shifterOf current.groupingNames
  let values ← Table.lift (current.column operand)
  let referenceValues ← Table.lift (reference.column operand)
  return current.rowIndices.map fun row =>
    method.apply (values.cell row)
      (shifter.referenceValue reference grouping referenceValues (current.point row))

/-- One element of a vector: the value of its component, or the list of their values. -/
def vectorElement (components : List Column) (row : Nat) : Value :=
  match components with
  | [component] => component.cell row
  | components => .list (Table.cells components row)

/-- The rows of a point in the order of the axis; equal places on the axis keep their order. -/
def vectorRows (vectors : Table) (grouping : List Column) (axis : Column) (point : List Value) :
    List Nat :=
  (vectors.rowIndices.filter fun row => Table.cells grouping row = point).mergeSort fun a b =>
    compare (axis.cell a) (axis.cell b) != .gt

def vectorValue (transformer : Option String) (elements : List Value) : Value :=
  match transformer with
  | some name => Transformer.named name elements
  | none => .list elements

/-- Collects for every row of `current` what `vectors` holds at its point along the axis. -/
def vectorColumn (components : List String) (axis : String) (transformer : Option String)
    (current vectors : Table) : Except QueryError (List Value) := do
  let grouping ← Table.lift (vectors.columnsNamed current.groupingNames)
  let axisColumn ← Table.lift (vectors.column axis)
  let componentColumns ← Table.lift (vectors.columnsNamed components)
  return current.rowIndices.map fun row =>
    match vectorRows vectors grouping axisColumn (current.point row) with
    | [] => .null
    | rows => vectorValue transformer (rows.map (vectorElement componentColumns))

/-! ### Nodes -/

/-- The tables of the scopes of a plan. -/
abbrev ScopeTables := List (ScopeKey × Table)

def ScopeTables.get (tables : ScopeTables) (key : ScopeKey) : Except QueryError Table :=
  match tables.lookup key with
  | some table => .ok table
  | none => .error (.incorrectPath (.scopeNotExecuted key))

def ScopeTables.set (tables : ScopeTables) (key : ScopeKey) (table : Table) : ScopeTables :=
  tables.map fun entry => if entry.1 = key then (key, table) else entry

namespace Plan

/-- The scope that a comparison refers to, which may be its own. -/
def referenceScope (plan : Plan) (node : PlanNode) : ScopeKey :=
  match (plan.graph.dependencies node).find? (·.scope ≠ node.scope) with
  | some dependency => dependency.scope
  | none => node.scope

def vectorScope (plan : Plan) (node : PlanNode) : Except QueryError ScopeKey :=
  match plan.graph.dependencies node with
  | dependency :: _ => .ok dependency.scope
  | [] => .error (.incorrectPath (.noComponents node.measure))

/-- The column of a node, read from the tables of the scopes. -/
def nodeColumn (plan : Plan) (tables : ScopeTables) (node : PlanNode) :
    Except QueryError (List Value) := do
  let measure ← plan.arena.get node.measure
  let current ← tables.get node.scope
  match measure with
  | .binary _ operator left right => operator.column left.label right.label current
  | .comparison label method base positions period columnSet ancestors =>
    let scope ← plan.scope node.scope
    let reference ← tables.get (plan.referenceScope node)
    method.column base.label current reference
      (Shifter.ofComparison scope label positions period columnSet ancestors)
  | .vector label fields axis transformer =>
    let vectors ← tables.get (← plan.vectorScope node)
    vectorColumn ((Measure.components label fields).map Measure.label) axis.name transformer
      current vectors
  | _ => throw (.incorrectPath (.computedByDatabase node.measure))

def evaluateNode (plan : Plan) (tables : ScopeTables) (node : PlanNode) :
    Except QueryError ScopeTables := do
  let values ← plan.nodeColumn tables node
  let table ← tables.get node.scope
  let extended ← Table.lift (table.addColumn ⟨.measure node.measure (inferredType values), values⟩)
  return tables.set node.scope extended

def evaluateNodes (plan : Plan) : List PlanNode → ScopeTables → Except QueryError ScopeTables
  | [], tables => .ok tables
  | node :: rest, tables => do
    let tables ← plan.evaluateNode tables node
    plan.evaluateNodes rest tables

def evaluate (plan : Plan) (tables : ScopeTables) : Except QueryError ScopeTables := do
  plan.evaluateNodes (← plan.inMemoryLayers).flatten tables

end Plan

end CubeQuery
