import CubeQuery.Execution.Totals
import CubeQuery.Memory.Database
import CubeQuery.Plan.Plan
import CubeQuery.Sql.Text

/-!
Engines: a dialect, the schema of a database and what the database answers. Statements are numbered
in the order in which they are sent, and an answer may depend on the number.
-/

namespace CubeQuery

structure Engine where
  dialect : Dialect
  datastore : Datastore
  answer : Nat → Statement → Except QueryError Table

namespace Engine

/-- An engine over rows in memory. -/
def ofRows (dialect : Dialect) (datastore : Datastore) (tables : List (String × List Row)) : Engine :=
  ⟨dialect, datastore, fun _ statement => MemoryDatabase.answer ⟨tables, dialect.groupingMarkers⟩ statement⟩

/-- An engine with prepared answers, the text of an error or a table for each statement. -/
def ofAnswers (dialect : Dialect) (datastore : Datastore) (answers : List (Except String Table)) : Engine :=
  ⟨dialect, datastore, fun number _ =>
    match answers[number]? with
    | some answer => answer.mapError .backend
    | none => .error (.backend "script exhausted")⟩

/-- The SQL of a statement whose tables are all in the database. -/
def sql (engine : Engine) (statement : Statement) : Except QueryError String :=
  match statement.physicalTables.find? fun table => (engine.datastore.store? table).isNone with
  | some table => .error (.unknownTable table engine.datastore.names)
  | none => statement.sql engine.dialect

/-- An answer with its totals marked. -/
def receive (engine : Engine) (number : Nat) (statement : Statement) : Except QueryError Table := do
  let table ← engine.answer number statement
  if statement.hasTotals then
    let (marked, outcome) := statement.markTotals engine.dialect.groupingMarkers table
    outcome.mapError QueryError.table
    return marked
  else return table

/-- Sends a statement after those that were sent before it. -/
def execute (engine : Engine) (sent : List String) (statement : Statement) :
    List String × Except QueryError Table :=
  match engine.sql statement with
  | .error error => (sent, .error error)
  | .ok sql => (sent ++ [sql], engine.receive sent.length statement)

/-- The tasks of a plan, in the order of discovery, if every statement can be written. -/
def tasks (engine : Engine) (plan : Plan) : Except QueryError (List Plan.ScopeTask) := do
  let tasks ← plan.tasks engine.datastore
  tasks.forM fun task => do let _ ← engine.sql task.statement
  return tasks

/-- The statements that a query takes. Nothing is sent. -/
def statements (engine : Engine) (query : Query) : Except QueryError (List String) := do
  let plan ← Plan.build query
  (← plan.tasks engine.datastore).mapM fun task => engine.sql task.statement

end Engine

end CubeQuery
