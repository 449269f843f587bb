import CubeQuery.Execution.Evaluation
import CubeQuery.Execution.Fetch
import CubeQuery.Execution.Order

/-!
Execution of queries one after another, each task of a query to its end before the next. What is
carried from query to query is the cache; the statements that were sent are kept as a record.
-/

namespace CubeQuery

structure Session where
  cache : QueryCache
  /-- The statements that were sent to the database, in order. -/
  sent : List String

namespace Session

def ofCache (cache : QueryCache) : Session := ⟨cache, []⟩

def record (session : Session) (sql : String) : Session :=
  { session with sent := session.sent ++ [sql] }

/-- Sends a statement. -/
def send (engine : Engine) (session : Session) (statement : Statement) :
    Session × Except QueryError Table :=
  let (sent, answer) := engine.execute session.sent statement
  ({ session with sent }, answer)

/-- Asks for all measures of a task and stores them. -/
def refetch (engine : Engine) (session : Session) (task : Plan.ScopeTask) :
    Session × Except QueryError Table :=
  let (asked, answer) := session.send engine (task.statementFor task.measures)
  let (cache, outcome) := task.storeAll asked.cache answer
  ({ asked with cache }, outcome)

/-- Goes on after a merge: a scope whose entries were gone is fetched again. -/
def settle (engine : Engine) (session : Session) (task : Plan.ScopeTask) :
    Except QueryError (Option Table) → Session × Except QueryError Table
  | .error error => (session, .error error)
  | .ok (some table) => (session, .ok table)
  | .ok none => session.refetch engine task

/-- The database measures of one scope. -/
def fetch (engine : Engine) (session : Session) (task : Plan.ScopeTask) :
    Session × Except QueryError Table :=
  let (cached, missing) := task.lookup session.cache
  if missing.isEmpty then
    let (cache, outcome) := task.completeRaw session.cache cached
    { session with cache }.settle engine task outcome
  else
    let (asked, answer) := session.send engine (task.statementFor missing)
    let (cache, outcome) := task.completeAnswer asked.cache cached missing answer
    { asked with cache }.settle engine task outcome

def runTask (engine : Engine) (session : Session) (task : Plan.ScopeTask) :
    Session × Except QueryError Table :=
  let (fetched, outcome) := session.fetch engine task
  (fetched, task.finish outcome)

/-- Every task runs, also after one that fails. -/
def runTasks (engine : Engine) (session : Session) :
    List Plan.ScopeTask → Session × List (Except QueryError Table)
  | [] => (session, [])
  | task :: rest =>
    let (ran, outcome) := session.runTask engine task
    let (done, outcomes) := ran.runTasks engine rest
    (done, outcome :: outcomes)

/-- The cache as a query finds it. -/
def prepare (session : Session) (action : CacheAction) : Session :=
  match action with
  | .use | .notUse => session
  | .invalidate => { session with cache := session.cache.clear }

end Session

namespace Plan

/-- The tables of the scopes, or the error of the first scope that failed. -/
def gather : List ScopeTask → List (Except QueryError Table) → Except QueryError ScopeTables
  | task :: tasks, outcome :: outcomes => do
    let table ← outcome
    return (task.key, table) :: (← gather tasks outcomes)
  | _, _ => .ok []

/-- The result of a query from the tables of its scopes: the columns that were asked for, in
order. -/
def result (plan : Plan) (orders : List (Field × SortOrder)) (tables : ScopeTables) :
    Except QueryError Table := do
  let evaluated ← plan.evaluate tables
  let scope ← plan.rootScope
  match evaluated.lookup plan.root with
  | none => throw (.incorrectPath (.noRootResult plan.root))
  | some root =>
    let projected ← Table.lift (root.project (scope.groupingNames ++ plan.requested))
    Table.lift (projected.ordered orders)

end Plan

/-- A query with its plan and tasks. -/
structure PlannedQuery where
  query : Query
  plan : Plan
  tasks : List Plan.ScopeTask

namespace PlannedQuery

/-- Every statement is written before any is sent. -/
def of (engine : Engine) (query : Query) : Except QueryError PlannedQuery := do
  let plan ← Plan.build query
  return ⟨query, plan, ← engine.tasks plan⟩

def usesCache (planned : PlannedQuery) : Bool := planned.query.cacheAction ≠ .notUse

def result (planned : PlannedQuery) (outcomes : List (Except QueryError Table)) :
    Except QueryError Table := do
  planned.plan.result planned.query.orders (← Plan.gather planned.tasks outcomes)

end PlannedQuery

namespace Session

/-- Runs the tasks of a query, beside the cache if the query does not use it. -/
def runPlanned (engine : Engine) (session : Session) (planned : PlannedQuery) :
    Session × Except QueryError Table :=
  if planned.usesCache then
    let (done, outcomes) := session.runTasks engine planned.tasks
    (done, planned.result outcomes)
  else
    let (done, outcomes) := { session with cache := .disabled }.runTasks engine planned.tasks
    ({ done with cache := session.cache }, planned.result outcomes)

def execute (engine : Engine) (session : Session) (query : Query) :
    Session × Except QueryError Table :=
  let prepared := session.prepare query.cacheAction
  match PlannedQuery.of engine query with
  | .error error => (prepared, .error error)
  | .ok planned => prepared.runPlanned engine planned

end Session

end CubeQuery
