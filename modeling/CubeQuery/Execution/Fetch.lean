import CubeQuery.Cache
import CubeQuery.Engine
import CubeQuery.Execution.Buckets

/-!
The steps of a task, which brings in the database measures of one scope. Measures that are cached
are merged into an answer for the others. A cached entry may be gone by the time it is merged; then
the whole scope is asked for again.
-/

namespace CubeQuery.Plan.ScopeTask

/-- The task's measures that are cached and those that are not. -/
def lookup (task : ScopeTask) (cache : QueryCache) : List Measure × List Measure :=
  task.measures.partition fun measure => cache.contains task.key measure

/-- The task's statement for some of its measures. -/
def statementFor (task : ScopeTask) (measures : List Measure) : Statement :=
  { task.statement with
    measures := task.statement.measures.filter fun measure =>
      measures.any fun wanted => wanted.label = measure.label }

def isMissing : CacheError → Bool
  | .notCached _ _ => true
  | _ => false

/-- A part of the cache's work; `none` if an entry is missing. -/
def found {α : Type} : Except CacheError α → Except QueryError (Option α)
  | .ok value => .ok (some value)
  | .error error => if isMissing error then .ok none else .error (.cache error)

/-- Merges the cached measures into an answer for the missing ones and stores those. -/
def complete (task : ScopeTask) (cache : QueryCache) (cached missing : List Measure) (answer : Table) :
    QueryCache × Except QueryError (Option Table) :=
  let (read, merged, outcome) := cache.merge task.key answer cached
  match found outcome with
  | .error error => (read, .error error)
  | .ok none => (read, .ok none)
  | .ok (some ()) =>
    if missing.isEmpty then (read, .ok (some merged))
    else
      let (stored, outcome) := read.store task.key merged missing
      (stored, (outcome.mapError .cache).map fun _ => some merged)

/-- The result of a scope that is cached as a whole. -/
def completeRaw (task : ScopeTask) (cache : QueryCache) (cached : List Measure) :
    QueryCache × Except QueryError (Option Table) :=
  match found (cache.rawResult task.key) with
  | .error error => (cache, .error error)
  | .ok none => (cache, .ok none)
  | .ok (some raw) => task.complete cache cached [] raw

/-- Merges an answer for the missing measures. -/
def completeAnswer (task : ScopeTask) (cache : QueryCache) (cached missing : List Measure)
    (answer : Except QueryError Table) : QueryCache × Except QueryError (Option Table) :=
  match answer with
  | .error error => (cache, .error error)
  | .ok table => task.complete cache cached missing table

/-- Stores an answer for all measures of the task. -/
def storeAll (task : ScopeTask) (cache : QueryCache) (answer : Except QueryError Table) :
    QueryCache × Except QueryError Table :=
  match answer with
  | .error error => (cache, .error error)
  | .ok table =>
    let (stored, outcome) := cache.store task.key table task.measures
    (stored, (outcome.mapError .cache).map fun _ => table)

/-- The table of the scope, with its bucket column. -/
def finish (task : ScopeTask) (outcome : Except QueryError Table) : Except QueryError Table := do
  (← outcome).expandBuckets task.scope

end CubeQuery.Plan.ScopeTask
