import CubeQuery.Proofs.Execution.Waiting

/-! Queries that are started together. Every turn takes a task on by a stage, and as long as tasks are left there
is a turn to come, so each task of each query comes to an outcome. Where nothing is cached the tasks do not meet:
their outcomes are those that they have alone, and so are the results of the queries. -/

namespace CubeQuery

variable {engine : Engine} {schedule : Schedule} {job : Job} {index : Nat}

/-- The answer to a statement does not depend on what was sent before. -/
def Engine.Timeless (engine : Engine) : Prop :=
  ∀ number statement, engine.answer number statement = engine.answer 0 statement

theorem Engine.timeless_ofRows (dialect : Dialect) (datastore : Datastore) (tables : List (String × List Row)) :
    (Engine.ofRows dialect datastore tables).Timeless := fun _ _ => rfl

namespace Session

variable {session other : Session} {task : Plan.ScopeTask}

theorem receive_timeless (timeless : engine.Timeless) (number : Nat) (statement : Statement) :
    engine.receive number statement = engine.receive 0 statement := by
  unfold Engine.receive
  rw [timeless]

theorem settle_timeless (timeless : engine.Timeless) (cache : QueryCache) (sent others : List String)
    (outcome : Except QueryError (Option Table)) :
    (settle engine ⟨cache, sent⟩ task outcome).2 = (settle engine ⟨cache, others⟩ task outcome).2 := by
  match outcome with
  | .error error => rfl
  | .ok (some table) => rfl
  | .ok none =>
    simp only [settle, refetch, send, Engine.execute]
    cases engine.sql (task.statementFor task.measures) with
    | error error => rfl
    | ok sql => simp only [receive_timeless timeless sent.length, receive_timeless timeless others.length]

theorem fetch_timeless (timeless : engine.Timeless) (same : session.cache = other.cache) :
    (session.fetch engine task).2 = (other.fetch engine task).2 := by
  simp only [fetch, send, Engine.execute, same]
  split
  · exact settle_timeless timeless _ _ _ _
  · cases engine.sql _ with
    | error error => exact settle_timeless timeless _ _ _ _
    | ok sql =>
      simp only [receive_timeless timeless session.sent.length, receive_timeless timeless other.sent.length]
      exact settle_timeless timeless _ _ _ _

/-- What a task comes to without a cache does not depend on what was sent before. -/
theorem resume_timeless (timeless : engine.Timeless) (off : session.cache = .disabled)
    (task : Plan.ScopeTask) (number : Nat) (stage : TaskStage) :
    (session.resume engine task number stage).2 = ((ofCache .disabled).resume engine task 0 stage).2 := by
  have same : session.cache = (ofCache .disabled).cache := off
  cases stage with
  | start | placed | locked | done outcome => exact fetch_timeless timeless same
  | asked cached missing statement =>
    simp only [resume, same, receive_timeless timeless number]
    exact settle_timeless timeless _ _ _ _
  | askedAll statement => simp only [resume, same, receive_timeless timeless number]

end Session

namespace Job

/-- The outcome that a task still has, where nothing is cached. -/
def toCome (engine : Engine) (job : Job) : Except QueryError Table :=
  match job.stage with
  | .done outcome => outcome
  | stage => job.task.finish ((Session.ofCache .disabled).resume engine job.task 0 stage).2

end Job

namespace Schedule

/-! ### Turns -/

variable {stage current : TaskStage}

/-- What a turn of a job comes to: the job is at a later stage, and where nothing is cached its outcome is
still the same. -/
structure Advanced (engine : Engine) (schedule : Schedule) (index : Nat) (job : Job) (after : Schedule) :
    Prop where
  orderly : after.Orderly [] [] []
  alike : after.session.cache.isDisabled = schedule.session.cache.isDisabled
  moved : ∃ stage : TaskStage, stage.turnsLeft < job.stage.turnsLeft ∧
    after.jobs = (schedule.setStage index stage).jobs ∧
      (engine.Timeless → (schedule.cacheOf job).isDisabled = true →
        Job.toCome engine { job with stage } = job.toCome engine)

/-- A job that has its lock is done, or it waits for an answer. -/
theorem Orderly.turned {answered : Nat} {left : Session × Except QueryError Table} {after : Schedule}
    (orderly : schedule.Orderly [index] [] []) (here : schedule.jobs[index]? = some { job with stage := current })
    (working : current.turnsLeft ≠ 0) (left_over : job.stage.turnsLeft ≠ 0)
    (turned : Turned engine schedule index job answered left after)
    (due : engine.Timeless → (schedule.cacheOf job).isDisabled = true →
      job.task.finish left.2 = job.toCome engine) :
    Advanced engine schedule index job after := by
  cases turned with
  | @ended session worked seen =>
    have kept : Orderly { schedule with session, answered } [index] [] [] := orderly.of_alike worked.alike
    refine ⟨kept.finish here left.2, ?_, .done (job.task.finish left.2), ?_, jobs_finish _ _ _ _, due⟩
    · rw [session_finish]
      exact worked.alike
    · exact Nat.pos_of_ne_zero left_over
  | @asked session sql stage worked asks fewer left_eq =>
    have kept : Orderly { schedule with session := session.record sql, answered } [index] [] [] :=
      orderly.of_alike worked.alike
    have holds := asks.holdsLock
    have begun : stage ≠ .start := by
      rintro rfl
      exact asks
    have on := kept.setStage here working holds.turnsLeft begun fun _ => holds
    refine ⟨on.aside, worked.alike, stage, fewer, rfl, fun timeless off => ?_⟩
    let seen := (view { schedule with session, answered } job).record sql
    have unseen : seen.cache = .disabled :=
      QueryCache.isDisabled_eq_true.mp ((isDisabled_cacheOf_alike worked.alike).trans off)
    have same := Session.resume_timeless timeless unseen job.task session.sent.length stage
    rw [← due timeless off, ← left_eq]
    refine Eq.trans ?_ (congrArg job.task.finish same.symm)
    cases stage with
    | start | placed | locked | done outcome => cases asks
    | asked cached missing statement | askedAll statement => rfl

/-- What a job takes before it works is no more than a change of its stage. -/
theorem Advanced.of_moved {middle after : Schedule} {old : TaskStage}
    (advanced : Advanced engine middle index job after) (jobs_eq : middle.jobs = (schedule.setStage index old).jobs)
    (session_eq : middle.session = schedule.session) : Advanced engine schedule index job after where
  orderly := advanced.orderly
  alike := session_eq ▸ advanced.alike
  moved := by
    obtain ⟨stage, fewer, jobs, due⟩ := advanced.moved
    refine ⟨stage, fewer, ?_, fun timeless off => due timeless ?_⟩
    · rw [jobs, ← setStage_setStage schedule index old stage]
      exact congrArg (List.modify · index _) jobs_eq
    · rw [← off, cacheOf, cacheOf, session_eq]

/-- A job that has its place waits for its lock, or it works. -/
theorem Orderly.lockAndStart (orderly : schedule.Orderly [index] [] [index])
    (here : schedule.jobs[index]? = some { job with stage := .placed }) (early : 3 < job.stage.turnsLeft) :
    Advanced engine schedule index job (schedule.lockAndStart engine index job) := by
  have due : job.toCome engine = job.task.finish ((Session.ofCache .disabled).fetch engine job.task).2 := by
    unfold Job.toCome
    generalize job.stage = stage at early
    cases stage with
    | start | placed => rfl
    | locked | asked cached missing statement | askedAll statement | done outcome =>
      simp [TaskStage.turnsLeft] at early
  have jobs_eq := jobs_takeLock schedule index job
  have session_eq := session_takeLock schedule index job
  unfold Schedule.lockAndStart
  generalize taken : schedule.takeLock index job = result at jobs_eq session_eq
  obtain ⟨after, granted⟩ := result
  have kept := orderly.takeLock here taken
  cases granted with
  | false =>
    refine ⟨kept, congrArg (·.cache.isDisabled) session_eq, .locked, early, jobs_eq, fun _ _ => due.symm⟩
  | true =>
    have locked : after.jobs[index]? = some { job with stage := .locked } := by
      rw [jobs_eq]
      exact getElem?_setStage here .locked
    refine Advanced.of_moved ?_ jobs_eq session_eq
    refine Orderly.turned kept locked (by decide) (by omega) (turned_start (by omega)) fun timeless off => ?_
    rw [due]
    exact congrArg job.task.finish (Session.fetch_timeless timeless (QueryCache.isDisabled_eq_true.mp off))

/-- A turn of a job that is not done. -/
theorem Orderly.turn (orderly : schedule.Orderly [index] [] []) (here : schedule.jobs[index]? = some job)
    (left : job.stage.turnsLeft ≠ 0) : Advanced engine schedule index job (schedule.turn engine index job) := by
  obtain ⟨query, uses, task, stage⟩ := job
  cases stage with
  | start =>
    let job : Job := ⟨query, uses, task, .start⟩
    have jobs_eq := jobs_takePlace schedule index job
    have session_eq := session_takePlace schedule index job
    unfold Schedule.turn
    simp only
    generalize taken : schedule.takePlace index job = result at jobs_eq session_eq
    obtain ⟨after, granted⟩ := result
    have kept := orderly.takePlace here rfl taken
    cases granted with
    | false =>
      exact ⟨kept, congrArg (·.cache.isDisabled) session_eq, .placed, Nat.lt_succ_self 4, jobs_eq, fun _ _ => rfl⟩
    | true =>
      have placed : after.jobs[index]? = some { job with stage := .placed } := by
        rw [jobs_eq]
        exact getElem?_setStage here .placed
      exact (Orderly.lockAndStart kept placed (by decide : 3 < 5)).of_moved jobs_eq session_eq
  | placed => exact (orderly.of_unlocked here id).lockAndStart here (Nat.lt_succ_self 3)
  | locked =>
    refine orderly.turned here left left (turned_start (Nat.lt_succ_self 2)) fun timeless off => ?_
    exact congrArg task.finish (Session.fetch_timeless timeless (QueryCache.isDisabled_eq_true.mp off))
  | asked cached missing statement =>
    refine orderly.turned here left left (turned_turn trivial) fun timeless off => ?_
    exact congrArg task.finish (Session.resume_timeless timeless (QueryCache.isDisabled_eq_true.mp off) task _ _)
  | askedAll statement =>
    refine orderly.turned here left left (turned_turn trivial) fun timeless off => ?_
    exact congrArg task.finish (Session.resume_timeless timeless (QueryCache.isDisabled_eq_true.mp off) task _ _)
  | done outcome => exact absurd rfl left

/-! ### Runs -/

/-- How many turns all jobs have at most. -/
def remaining : List Job → Nat
  | [] => 0
  | job :: rest => job.stage.turnsLeft + remaining rest

theorem remaining_append (front back : List Job) : remaining (front ++ back) = remaining front + remaining back := by
  induction front with
  | nil => simp [remaining]
  | cons job rest ih => simp [remaining, ih, Nat.add_assoc]

theorem remaining_eq_zero {jobs : List Job} : remaining jobs = 0 ↔ ∀ job ∈ jobs, job.stage.turnsLeft = 0 := by
  induction jobs with
  | nil => simp [remaining]
  | cons job rest ih => simp [remaining, ih]

theorem remaining_of_start {jobs : List Job} (starts : ∀ job ∈ jobs, job.stage = .start) :
    remaining jobs = turnBound jobs := by
  induction jobs with
  | nil => rfl
  | cons job rest ih =>
    obtain ⟨first, others⟩ := List.forall_mem_cons.mp starts
    rw [remaining, first, ih others]
    simp only [TaskStage.turnsLeft, turnBound, List.length_cons]
    omega

/-- A job at a later stage, whose outcome is still the same where it does not use a cache. -/
def Later (engine : Engine) (off : Bool) (job later : Job) : Prop :=
  ∃ stage, later = { job with stage } ∧
    (engine.Timeless → job.usesCache = false ∨ off = true → later.toCome engine = job.toCome engine)

theorem forall₂_later_self (off : Bool) (jobs : List Job) : List.Forall₂ (Later engine off) jobs jobs :=
  List.forall₂_same.mpr fun job _ => ⟨job.stage, rfl, fun _ _ => rfl⟩

theorem Later.trans {off : Bool} {first second third : Job} (after : Later engine off second third)
    (before : Later engine off first second) : Later engine off first third := by
  obtain ⟨old, rfl, same⟩ := before
  obtain ⟨stage, rfl, still⟩ := after
  exact ⟨stage, rfl, fun timeless apart => (still timeless apart).trans (same timeless apart)⟩

theorem forall₂_later_trans {off : Bool} {jobs others last : List Job}
    (before : List.Forall₂ (Later engine off) jobs others) (after : List.Forall₂ (Later engine off) others last) :
    List.Forall₂ (Later engine off) jobs last := by
  induction before generalizing last with
  | nil => exact after
  | cons first rest ih =>
    obtain ⟨later, others, then_later, then_rest, rfl⟩ := List.forall₂_cons_left_iff.mp after
    exact .cons (then_later.trans first) (ih then_rest)

theorem Advanced.jobs {after : Schedule} (advanced : Advanced engine schedule index job after)
    (here : schedule.jobs[index]? = some job) :
    remaining after.jobs < remaining schedule.jobs ∧
      List.Forall₂ (Later engine schedule.session.cache.isDisabled) schedule.jobs after.jobs := by
  obtain ⟨stage, fewer, jobs_eq, due⟩ := advanced.moved
  obtain ⟨inside, at_index⟩ := List.getElem?_eq_some_iff.mp here
  obtain ⟨front, moved, back, split, length_eq, modified⟩ :=
    List.exists_of_modify (fun job : Job => { job with stage }) inside
  have same : moved = job := by
    simp only [split] at here
    simpa [← length_eq] using here
  subst same
  rw [jobs_eq, setStage, modified, split]
  constructor
  · simp only [remaining_append, remaining]
    omega
  · refine List.rel_append (forall₂_later_self _ front)
      (.cons ⟨stage, rfl, fun timeless apart => due timeless ?_⟩ (forall₂_later_self _ back))
    unfold cacheOf
    rcases apart with unused | off
    · simp [unused, QueryCache.isDisabled]
    · cases moved.usesCache
      · rfl
      · exact off

/-- A run that is long enough ends with every job done. -/
theorem Orderly.run (engine : Engine) {bound : Nat} (orderly : schedule.Orderly [] [] [])
    (enough : remaining schedule.jobs ≤ bound) :
    (∀ job ∈ (schedule.run engine bound).jobs, job.stage.turnsLeft = 0) ∧
      List.Forall₂ (Later engine schedule.session.cache.isDisabled) schedule.jobs
        (schedule.run engine bound).jobs := by
  -- On the bound: each turn lowers what is left to do, and there is a turn as long as something is.
  induction bound generalizing schedule with
  | zero =>
    exact ⟨remaining_eq_zero.mp (Nat.le_zero.mp enough), forall₂_later_self _ _⟩
  | succ bound ih =>
    have lined := orderly.lineUp
    have jobs_eq := schedule.jobs_lineUp
    have session_eq := schedule.session_lineUp
    have aside := schedule.aside_lineUp
    unfold Schedule.run
    simp only
    generalize schedule.lineUp = current at lined jobs_eq session_eq aside ⊢
    rw [← jobs_eq] at enough
    rw [← jobs_eq, ← session_eq]
    split
    · next none =>
      refine ⟨fun job listed => ?_, forall₂_later_self _ _⟩
      obtain ⟨index, here⟩ := List.mem_iff_getElem?.mp listed
      exact lined.all_done none (aside none) here
    · next index line next =>
      have listed : index ∈ [] ++ current.present := by simp [present, next]
      obtain ⟨job, here, left⟩ := (lined.roster.unfinished index).mp listed
      rw [here]
      have advanced : Advanced engine { current with line } index job _ := (lined.pop next).turn here left
      obtain ⟨fewer, carried⟩ := advanced.jobs here
      obtain ⟨done, rest⟩ := ih advanced.orderly (Nat.le_of_lt_succ (Nat.lt_of_lt_of_le fewer enough))
      rw [advanced.alike] at rest
      exact ⟨done, forall₂_later_trans carried rest⟩

variable {queries : List PlannedQuery}

theorem jobs_of_query (session : Session) (maxConcurrent : Nat) {query : Nat} {planned : PlannedQuery}
    (found : queries[query]? = some planned) :
    (ofQueries session maxConcurrent queries).jobs.filter (·.query = query) = jobsOf query planned := by
  obtain ⟨inside, here⟩ := List.getElem?_eq_some_iff.mp found
  obtain ⟨front, back, rfl, rfl⟩ : ∃ front back, queries = front ++ planned :: back ∧ front.length = query :=
    ⟨queries.take query, queries.drop (query + 1), by simp [← here], by simp; omega⟩
  have apart (others : List PlannedQuery) (shift : Nat → Nat)
      (away : ∀ index < others.length, shift index ≠ front.length) :
      (others.mapIdx fun index => jobsOf (shift index)).flatten.filter (·.query = front.length) = [] := by
    refine List.filter_eq_nil_iff.mpr fun job listed => ?_
    obtain ⟨own, own_mem, listed⟩ := List.mem_flatten.mp listed
    obtain ⟨index, inside, rfl⟩ := List.mem_mapIdx.mp own_mem
    simpa [(mem_jobsOf listed).1] using away index inside
  have all : (jobsOf front.length planned).filter (·.query = front.length) = jobsOf front.length planned :=
    List.filter_eq_self.mpr fun job listed => decide_eq_true (mem_jobsOf listed).1
  have before : (front.mapIdx jobsOf).flatten.filter (·.query = front.length) = [] :=
    apart front id fun index inside => Nat.ne_of_lt inside
  have behind := apart back (· + 1 + front.length) fun index inside => by omega
  simp only [ofQueries, List.mapIdx_append, List.mapIdx_cons, List.flatten_append, List.flatten_cons,
    List.filter_append, Nat.zero_add]
  rw [before, behind, all, List.nil_append, List.append_nil]

/-- What the tasks of a query came to, once they are done. -/
theorem outcomes_of_later {off uses : Bool} {query : Nat} {tasks : List Plan.ScopeTask} {jobs : List Job}
    (later : List.Forall₂ (Later engine off) (tasks.map fun task => ⟨query, uses, task, .start⟩) jobs)
    (done : ∀ job ∈ jobs, job.stage.turnsLeft = 0) :
    (jobs.filterMap outcome?).length = tasks.length ∧
      (engine.Timeless → uses = false ∨ off = true → jobs.filterMap outcome? =
        tasks.map fun task => ((Session.ofCache .disabled).runTask engine task).2) := by
  induction tasks generalizing jobs with
  | nil =>
    obtain rfl := List.forall₂_nil_left_iff.mp later
    exact ⟨rfl, fun _ _ => rfl⟩
  | cons task rest ih =>
    obtain ⟨job, others, ⟨stage, rfl, due⟩, restLater, rfl⟩ := List.forall₂_cons_left_iff.mp later
    obtain ⟨first, restDone⟩ := List.forall_mem_cons.mp done
    obtain ⟨length_eq, outcomes_eq⟩ := ih restLater restDone
    cases stage with
    | start | placed | locked | asked cached missing statement | askedAll statement => cases first
    | done outcome =>
      refine ⟨congrArg (· + 1) length_eq, fun timeless apart => ?_⟩
      have same : outcome = ((Session.ofCache .disabled).runTask engine task).2 := due timeless apart
      rw [List.map_cons, ← outcomes_eq timeless apart, ← same]
      rfl

/-- Every task of every query that is started comes to an outcome. -/
theorem outcomes_run (engine : Engine) (session : Session) (maxConcurrent : Nat) {query : Nat}
    {planned : PlannedQuery} (found : queries[query]? = some planned) :
    let schedule := ofQueries session maxConcurrent queries
    let outcomes := (schedule.run engine (turnBound schedule.jobs)).outcomes query
    outcomes.length = planned.tasks.length ∧
      (engine.Timeless → planned.usesCache = false ∨ session.cache.isDisabled = true → outcomes =
        planned.tasks.map fun task => ((Session.ofCache .disabled).runTask engine task).2) := by
  intro schedule outcomes
  obtain ⟨done, later⟩ := (orderly_ofQueries session maxConcurrent queries).run engine
    (remaining_of_start fun job listed => start_of_mem_jobs session maxConcurrent listed).le
  have own : List.Forall₂ (Later engine session.cache.isDisabled) (schedule.jobs.filter (·.query = query))
      ((schedule.run engine (turnBound schedule.jobs)).jobs.filter (·.query = query)) := by
    refine List.rel_filter (fun first second carried => ?_) later
    obtain ⟨stage, rfl, -⟩ := carried
    rfl
  rw [jobs_of_query session maxConcurrent found] at own
  exact outcomes_of_later own fun job listed => done job (List.mem_filter.mp listed).1

end Schedule

/-! ### Queries that are started together -/

namespace PlannedQuery

/-- The result of a query of which nothing is cached. -/
def alone (engine : Engine) (planned : PlannedQuery) : Except QueryError Table :=
  planned.result (planned.tasks.map fun task => ((Session.ofCache .disabled).runTask engine task).2)

end PlannedQuery

namespace Session

variable {session : Session} {planned : PlannedQuery} {query : Query}

theorem runTasks_alone (timeless : engine.Timeless) (off : session.cache = .disabled)
    (tasks : List Plan.ScopeTask) :
    (session.runTasks engine tasks).2 =
        tasks.map (fun task => ((ofCache .disabled).runTask engine task).2) ∧
      (session.runTasks engine tasks).1.cache = .disabled := by
  induction tasks generalizing session with
  | nil => exact ⟨rfl, off⟩
  | cons task rest ih =>
    obtain ⟨outcomes_eq, stays⟩ := ih (runTask_disabled off)
    have same : (session.runTask engine task).2 = ((ofCache .disabled).runTask engine task).2 :=
      congrArg task.finish (fetch_timeless timeless off)
    refine ⟨?_, stays⟩
    rw [List.map_cons, ← same, ← outcomes_eq]
    rfl

theorem runPlanned_alone (timeless : engine.Timeless)
    (apart : planned.usesCache = false ∨ session.cache = .disabled) :
    (session.runPlanned engine planned).2 = planned.alone engine := by
  unfold runPlanned
  cases uses : planned.usesCache with
  | false => exact congrArg planned.result (runTasks_alone timeless rfl planned.tasks).1
  | true =>
    have off := apart.resolve_left (by simp [uses])
    exact congrArg planned.result (runTasks_alone timeless off planned.tasks).1

theorem runPlanned_disabled (timeless : engine.Timeless) (off : session.cache = .disabled) :
    (session.runPlanned engine planned).1.cache = .disabled := by
  unfold runPlanned
  cases planned.usesCache with
  | false => exact off
  | true => exact (runTasks_alone timeless off planned.tasks).2

theorem runInTurn_alone (timeless : engine.Timeless) (session : Session) (queries : List PlannedQuery) :
    List.Forall₂ (fun planned result =>
        planned.usesCache = false ∨ session.cache = .disabled → result = planned.alone engine)
      queries (session.runInTurn engine queries).2 := by
  induction queries generalizing session with
  | nil => exact .nil
  | cons planned rest ih =>
    refine .cons (runPlanned_alone timeless) ((ih _).imp fun other result own apart => own ?_)
    exact apart.imp_right (runPlanned_disabled timeless)

theorem runInterleaved_alone (timeless : engine.Timeless) (session : Session) (maxConcurrent : Nat)
    (queries : List PlannedQuery) :
    List.Forall₂ (fun planned result =>
        planned.usesCache = false ∨ session.cache = .disabled → result = planned.alone engine)
      queries (session.runInterleaved engine maxConcurrent queries).2 := by
  refine List.forall₂_iff_get.mpr ⟨(List.length_mapIdx ..).symm, fun index inside also apart => ?_⟩
  obtain ⟨-, outcomes_eq⟩ := Schedule.outcomes_run engine session maxConcurrent (List.getElem?_eq_getElem inside)
  have outcomes_eq := outcomes_eq timeless (apart.imp_right QueryCache.isDisabled_eq_true.mpr)
  simp only [runInterleaved, List.get_eq_getElem, List.getElem_mapIdx]
  exact congrArg queries[index].result outcomes_eq

theorem prepare_disabled (off : session.cache = .disabled) (action : CacheAction) :
    (session.prepare action).cache = .disabled := by
  unfold prepare
  cases action with
  | use | notUse => exact off
  | invalidate =>
    rw [off]
    rfl

theorem execute_alone (timeless : engine.Timeless)
    (apart : query.cacheAction = .notUse ∨ session.cache = .disabled) :
    (session.execute engine query).2 = PlannedQuery.of engine query >>= PlannedQuery.alone engine := by
  unfold execute
  cases made : PlannedQuery.of engine query with
  | error error => rfl
  | ok planned =>
    obtain ⟨query_eq, -⟩ := PlannedQuery.of_eq_ok made
    refine runPlanned_alone timeless (apart.imp (fun unused => ?_) fun off => prepare_disabled off _)
    simp [PlannedQuery.usesCache, query_eq, unused]

theorem planAll_planned (engine : Engine) (session : Session) (queries : List Query) :
    (session.planAll engine queries).2 = queries.map (PlannedQuery.of engine) ∧
      (session.cache = .disabled → (session.planAll engine queries).1.cache = .disabled) := by
  induction queries generalizing session with
  | nil => exact ⟨rfl, id⟩
  | cons query rest ih =>
    obtain ⟨planned_eq, stays⟩ := ih (session.prepare query.cacheAction)
    exact ⟨congrArg (_ :: ·) planned_eq, fun off => stays (prepare_disabled off _)⟩

/-- The result of a query stands where the query stands, also behind one that could not be planned. -/
theorem forall₂_assemble {property : PlannedQuery → Except QueryError Table → Prop}
    {planned : List (Except QueryError PlannedQuery)} {results : List (Except QueryError Table)}
    (each : List.Forall₂ property (plannedOnly planned) results) :
    List.Forall₂ (fun made result => (∀ error, made = .error error → result = .error error) ∧
      ∀ planned, made = .ok planned → property planned result) planned (assemble planned results) := by
  induction planned generalizing results with
  | nil => exact .nil
  | cons made rest ih =>
    cases made with
    | error error => exact .cons ⟨fun other same => congrArg _ (Except.error.inj same), by simp⟩ (ih each)
    | ok planned =>
      obtain ⟨result, results, first, others, rfl⟩ := List.forall₂_cons_left_iff.mp each
      exact .cons ⟨by simp, fun other same => Except.ok.inj same ▸ first⟩ (ih others)

/-- Queries that are started together do not disturb each other: one that does not use the cache, and any
where there is none, has the result that it has alone, whether tasks give way to each other or not and
however many run at a time. -/
theorem executeAll_alone (timeless : engine.Timeless) (session : Session) (maxConcurrent : Nat) (givesWay : Bool)
    {queries : List Query} {index : Nat} (here : queries[index]? = some query)
    (apart : query.cacheAction = .notUse ∨ session.cache = .disabled) :
    (session.executeAll engine maxConcurrent givesWay queries).2[index]? =
      some (session.execute engine query).2 := by
  obtain ⟨planned_eq, stays⟩ := planAll_planned engine session queries
  unfold executeAll
  generalize session.planAll engine queries = made at planned_eq stays
  obtain ⟨prepared, planned⟩ := made
  obtain rfl : planned = queries.map (PlannedQuery.of engine) := planned_eq
  let started := plannedOnly (queries.map (PlannedQuery.of engine))
  let ran := if givesWay then prepared.runInterleaved engine maxConcurrent started
    else prepared.runInTurn engine started
  have each : List.Forall₂ (fun planned result =>
      planned.usesCache = false ∨ prepared.cache = .disabled → result = planned.alone engine) started ran.2 := by
    cases givesWay with
    | false => exact runInTurn_alone timeless prepared _
    | true => exact runInterleaved_alone timeless prepared maxConcurrent _
  obtain ⟨length_eq, placed⟩ := List.forall₂_iff_get.mp (forall₂_assemble each)
  obtain ⟨inside, rfl⟩ := List.getElem?_eq_some_iff.mp here
  have planned : index < (queries.map (PlannedQuery.of engine)).length := by simpa using inside
  obtain ⟨fails, succeeds⟩ := placed index planned (length_eq ▸ planned)
  show (assemble (queries.map (PlannedQuery.of engine)) ran.2)[index]? = _
  rw [List.getElem?_eq_getElem (length_eq ▸ planned), execute_alone timeless apart]
  simp only [List.get_eq_getElem, List.getElem_map] at fails succeeds
  cases made : PlannedQuery.of engine queries[index] with
  | error error => exact congrArg some (fails error made)
  | ok planned =>
    obtain ⟨query_eq, -⟩ := PlannedQuery.of_eq_ok made
    refine congrArg some (succeeds planned made (apart.imp (fun unused => ?_) stays))
    simp [PlannedQuery.usesCache, query_eq, unused]

end Session

end CubeQuery
