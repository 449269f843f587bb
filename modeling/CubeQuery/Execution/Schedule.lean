import CubeQuery.Execution.Executor

/-!
Execution of queries side by side. The tasks of all queries take turns in one line. A task steps
aside once after each statement that it sends, until the line is empty; then those who stepped aside
line up again, the last one first, and the answers go to them in that order. A query runs at most so
many tasks at a time, and a scope that is cached is computed by one task at a time: who has to wait
is served in the order of arrival.
-/

namespace CubeQuery

/-- Where a task stands when its turn comes. -/
inductive TaskStage where
  /-- It needs a place among the running tasks of its query. -/
  | start
  /-- It has a place and needs the lock of its scope. -/
  | placed
  /-- It holds the lock. -/
  | locked
  /-- It has asked for the measures that were not cached. -/
  | asked (cached missing : List Measure) (statement : Statement)
  /-- It has asked for all measures. -/
  | askedAll (statement : Statement)
  | done (outcome : Except QueryError Table)

structure Job where
  /-- The place of its query in the list of queries. -/
  query : Nat
  usesCache : Bool
  task : Plan.ScopeTask
  stage : TaskStage

/-- A lock that is held, with the jobs that wait for it. -/
structure HeldLock where
  scope : ScopeKey
  waiting : List Nat

/-- The places of a query that are free, with the jobs that wait for one. -/
structure Places where
  free : Nat
  waiting : List Nat

structure Schedule where
  session : Session
  /-- How many answers came in. -/
  answered : Nat
  jobs : List Job
  /-- The jobs whose turn is to come. -/
  line : List Nat
  /-- The jobs that stepped aside, the last one first. -/
  aside : List Nat
  /-- One entry for each query. -/
  places : List Places
  locks : List HeldLock

namespace Schedule

def setStage (schedule : Schedule) (index : Nat) (stage : TaskStage) : Schedule :=
  { schedule with jobs := schedule.jobs.modify index fun job => { job with stage } }

/-- Puts a job at the end of the line. -/
def enqueue (schedule : Schedule) (index : Nat) : Schedule :=
  { schedule with line := schedule.line ++ [index] }

/-! ### Places and locks -/

/-- Takes a free place for a job, or has the job wait; whoever waits is placed when its turn comes
again. -/
def takePlace (schedule : Schedule) (index : Nat) (job : Job) : Schedule × Bool :=
  let placed := schedule.setStage index .placed
  match schedule.places[job.query]? with
  | some ⟨free + 1, waiting⟩ =>
    ({ placed with places := schedule.places.set job.query ⟨free, waiting⟩ }, true)
  | some ⟨0, waiting⟩ =>
    ({ placed with places := schedule.places.set job.query ⟨0, waiting ++ [index]⟩ }, false)
  | none => (placed, true)

/-- Gives the place of a job to the first that waits. -/
def leavePlace (schedule : Schedule) (job : Job) : Schedule :=
  match schedule.places[job.query]? with
  | some ⟨free, []⟩ => { schedule with places := schedule.places.set job.query ⟨free + 1, []⟩ }
  | some ⟨free, next :: waiting⟩ =>
    { schedule with places := schedule.places.set job.query ⟨free, waiting⟩ }.enqueue next
  | none => schedule

def cacheOf (schedule : Schedule) (job : Job) : QueryCache :=
  if job.usesCache then schedule.session.cache else .disabled

/-- Takes the lock of a job's scope, or has the job wait. Where nothing is cached, a task has the
scope to itself. -/
def takeLock (schedule : Schedule) (index : Nat) (job : Job) : Schedule × Bool :=
  let locked := schedule.setStage index .locked
  if (schedule.cacheOf job).isDisabled then (locked, true)
  else if schedule.locks.any (·.scope = job.task.key) then
    ({ locked with
        locks := schedule.locks.map fun lock =>
          if lock.scope = job.task.key then { lock with waiting := lock.waiting ++ [index] } else lock },
      false)
  else ({ locked with locks := schedule.locks ++ [⟨job.task.key, []⟩] }, true)

/-- Gives the lock of a job's scope to the first that waits. -/
def leaveLock (schedule : Schedule) (job : Job) : Schedule :=
  if (schedule.cacheOf job).isDisabled then schedule
  else
    match schedule.locks.find? (·.scope = job.task.key) with
    | some ⟨scope, next :: waiting⟩ =>
      { schedule with
        locks := schedule.locks.map fun (lock : HeldLock) =>
          if lock.scope = scope then ⟨scope, waiting⟩ else lock
      }.enqueue next
    | _ => { schedule with locks := schedule.locks.filter (·.scope ≠ job.task.key) }

/-! ### Steps -/

def setCache (schedule : Schedule) (job : Job) (cache : QueryCache) : Schedule :=
  if job.usesCache then { schedule with session := { schedule.session with cache } } else schedule

def finish (schedule : Schedule) (index : Nat) (job : Job) (outcome : Except QueryError Table) :
    Schedule :=
  ((schedule.setStage index (.done (job.task.finish outcome))).leaveLock job).leavePlace job

/-- Sends a statement and steps aside. -/
def ask (engine : Engine) (schedule : Schedule) (index : Nat) (job : Job) (measures : List Measure)
    (stage : Statement → TaskStage) : Schedule :=
  let statement := job.task.statementFor measures
  match engine.sql statement with
  | .error error => schedule.finish index job (.error error)
  | .ok sql =>
    { schedule with session := schedule.session.record sql, aside := index :: schedule.aside }.setStage
      index (stage statement)

/-- Takes the next answer. -/
def take (engine : Engine) (schedule : Schedule) (statement : Statement) :
    Schedule × Except QueryError Table :=
  ({ schedule with answered := schedule.answered + 1 }, engine.receive schedule.answered statement)

/-- Goes on after a merge. -/
def settle (engine : Engine) (schedule : Schedule) (index : Nat) (job : Job) :
    Except QueryError (Option Table) → Schedule
  | .error error => schedule.finish index job (.error error)
  | .ok (some table) => schedule.finish index job (.ok table)
  | .ok none => schedule.ask engine index job job.task.measures .askedAll

/-- Looks the task's measures up and merges them at once if all are cached. -/
def start (engine : Engine) (schedule : Schedule) (index : Nat) (job : Job) : Schedule :=
  let cache := schedule.cacheOf job
  let (cached, missing) := job.task.lookup cache
  if missing.isEmpty then
    let (read, outcome) := job.task.completeRaw cache cached
    (schedule.setCache job read).settle engine index job outcome
  else schedule.ask engine index job missing (.asked cached missing)

def lockAndStart (engine : Engine) (schedule : Schedule) (index : Nat) (job : Job) : Schedule :=
  match schedule.takeLock index job with
  | (locked, true) => locked.start engine index job
  | (waiting, false) => waiting

/-- One turn of a job. -/
def turn (engine : Engine) (schedule : Schedule) (index : Nat) (job : Job) : Schedule :=
  match job.stage with
  | .start =>
    match schedule.takePlace index job with
    | (placed, true) => placed.lockAndStart engine index job
    | (waiting, false) => waiting
  | .placed => schedule.lockAndStart engine index job
  | .locked => schedule.start engine index job
  | .asked cached missing statement =>
    let (taken, answer) := schedule.take engine statement
    let (read, outcome) := job.task.completeAnswer (taken.cacheOf job) cached missing answer
    (taken.setCache job read).settle engine index job outcome
  | .askedAll statement =>
    let (taken, answer) := schedule.take engine statement
    let (stored, outcome) := job.task.storeAll (taken.cacheOf job) answer
    (taken.setCache job stored).finish index job outcome
  | .done _ => schedule

/-- Lets those who stepped aside line up if nobody else is in line. -/
def lineUp (schedule : Schedule) : Schedule :=
  match schedule.line with
  | [] => { schedule with line := schedule.aside, aside := [] }
  | _ => schedule

/-- Turns until nobody is left; the first argument bounds their number. -/
def run (engine : Engine) : Nat → Schedule → Schedule
  | 0, schedule => schedule
  | bound + 1, waiting =>
    let schedule := waiting.lineUp
    match schedule.line with
    | [] => schedule
    | index :: line =>
      match schedule.jobs[index]? with
      | none => run engine bound { schedule with line }
      | some job => run engine bound ({ schedule with line }.turn engine index job)

/-- A job has five turns at most. -/
def turnBound (jobs : List Job) : Nat := 5 * jobs.length

def jobsOf (query : Nat) (planned : PlannedQuery) : List Job :=
  planned.tasks.map fun task => ⟨query, planned.usesCache, task, .start⟩

/-- All jobs in line, those of the first query first. -/
def ofQueries (session : Session) (maxConcurrent : Nat) (queries : List PlannedQuery) : Schedule :=
  let jobs := (queries.mapIdx jobsOf).flatten
  ⟨session, session.sent.length, jobs, List.range jobs.length, [],
    queries.map fun _ => ⟨max maxConcurrent 1, []⟩, []⟩

def outcome? : Job → Option (Except QueryError Table)
  | ⟨_, _, _, .done outcome⟩ => some outcome
  | _ => none

/-- What the tasks of a query came to. -/
def outcomes (schedule : Schedule) (query : Nat) : List (Except QueryError Table) :=
  (schedule.jobs.filter (·.query = query)).filterMap outcome?

end Schedule

/-! ### Sessions -/

namespace Session

/-- Plans queries in turn. A cache that a query invalidates is cleared before any task runs. -/
def planAll (engine : Engine) (session : Session) :
    List Query → Session × List (Except QueryError PlannedQuery)
  | [] => (session, [])
  | query :: rest =>
    let (done, planned) := (session.prepare query.cacheAction).planAll engine rest
    (done, PlannedQuery.of engine query :: planned)

/-- The queries whose planning did not fail. -/
def plannedOnly (planned : List (Except QueryError PlannedQuery)) : List PlannedQuery :=
  planned.filterMap fun
    | .ok query => some query
    | .error _ => none

/-- Gives every planned query its result, in order. -/
def assemble : List (Except QueryError PlannedQuery) → List (Except QueryError Table) →
    List (Except QueryError Table)
  | [], _ => []
  | .error error :: rest, results => .error error :: assemble rest results
  | .ok _ :: rest, result :: results => result :: assemble rest results
  | .ok _ :: rest, [] => .error .cancelled :: assemble rest []

/-- Runs the tasks of planned queries one query after another. -/
def runInTurn (engine : Engine) (session : Session) :
    List PlannedQuery → Session × List (Except QueryError Table)
  | [] => (session, [])
  | planned :: rest =>
    let (ran, result) := session.runPlanned engine planned
    let (done, results) := ran.runInTurn engine rest
    (done, result :: results)

/-- Runs the tasks of planned queries side by side. -/
def runInterleaved (engine : Engine) (maxConcurrent : Nat) (session : Session)
    (queries : List PlannedQuery) : Session × List (Except QueryError Table) :=
  let start := Schedule.ofQueries session maxConcurrent queries
  let schedule := start.run engine (Schedule.turnBound start.jobs)
  (schedule.session, queries.mapIdx fun index planned => planned.result (schedule.outcomes index))

/-- Executes queries that are started together. Tasks give way to each other only if backends do. -/
def executeAll (engine : Engine) (maxConcurrent : Nat) (givesWay : Bool) (session : Session)
    (queries : List Query) : Session × List (Except QueryError Table) :=
  let (prepared, planned) := session.planAll engine queries
  let (done, results) :=
    if givesWay then prepared.runInterleaved engine maxConcurrent (plannedOnly planned)
    else prepared.runInTurn engine (plannedOnly planned)
  (done, assemble planned results)

/-- The result of a query that is called off once its tasks are started. -/
def calledOff (engine : Engine) (query : Query) : Except QueryError Table := do
  let _ ← PlannedQuery.of engine query
  throw .cancelled

end Session

end CubeQuery
