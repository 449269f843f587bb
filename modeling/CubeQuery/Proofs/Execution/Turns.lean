import CubeQuery.Execution.Schedule
import CubeQuery.Proofs.Cache.Scopes

/-! What a task does in its turns is what it does alone. A turn either brings a task to its end, with the
outcome that it would have alone from there, or has it ask the database and step aside, and then the same
outcome is still to come. So tasks that give way to each other, but of which one only runs at a time, run
as they do in turn, and a query that is started alone is executed. -/

namespace CubeQuery

variable {engine : Engine} {task : Plan.ScopeTask} {job : Job} {schedule : Schedule} {index : Nat}

/-- How many turns a job has from a stage on, at most. -/
def TaskStage.turnsLeft : TaskStage → Nat
  | .start => 5
  | .placed => 4
  | .locked => 3
  | .asked _ _ _ => 2
  | .askedAll _ => 1
  | .done _ => 0

/-- The task waits for an answer. -/
def TaskStage.HasAsked : TaskStage → Prop
  | .asked _ _ _ | .askedAll _ => True
  | _ => False

theorem TaskStage.HasAsked.turnsLeft {stage : TaskStage} (asked : stage.HasAsked) :
    0 < stage.turnsLeft ∧ stage.turnsLeft ≤ 2 := by
  cases stage with
  | start | placed | locked | done outcome => cases asked
  | asked cached missing statement | askedAll statement => simp [TaskStage.turnsLeft]

namespace Session

/-- What a task comes to from a stage on, alone: before it asks, all of it; afterwards what is left
once the answer with a number comes in. -/
def resume (engine : Engine) (session : Session) (task : Plan.ScopeTask) (number : Nat) :
    TaskStage → Session × Except QueryError Table
  | .asked cached missing statement =>
    let (cache, outcome) :=
      task.completeAnswer session.cache cached missing (engine.receive number statement)
    { session with cache }.settle engine task outcome
  | .askedAll statement =>
    let (cache, outcome) := task.storeAll session.cache (engine.receive number statement)
    ({ session with cache }, outcome)
  | _ => session.fetch engine task

end Session

namespace Schedule

/-! ### The session as a job sees it -/

def view (schedule : Schedule) (job : Job) : Session :=
  { schedule.session with cache := schedule.cacheOf job }

/-- What a job may do to the session while it works: a cache stays on or off, and one that the job does
not use stays as it is. -/
structure Worked (schedule : Schedule) (job : Job) (session : Session) : Prop where
  alike : session.cache.isDisabled = schedule.session.cache.isDisabled
  kept : job.usesCache = false → session.cache = schedule.session.cache
  sent : session.sent = schedule.session.sent

theorem worked_self (schedule : Schedule) (job : Job) : schedule.Worked job schedule.session :=
  ⟨rfl, fun _ => rfl, rfl⟩

theorem Worked.trans {session later : Session} {number : Nat}
    (after : { schedule with session, answered := number }.Worked job later)
    (before : schedule.Worked job session) : schedule.Worked job later where
  alike := after.alike.trans before.alike
  kept off := (after.kept off).trans (before.kept off)
  sent := after.sent.trans before.sent

theorem exists_setCache_eq {cache : QueryCache} (alike : cache.isDisabled = (schedule.cacheOf job).isDisabled) :
    ∃ session, schedule.setCache job cache = { schedule with session } ∧ schedule.Worked job session ∧
      { schedule with session }.view job = { schedule.view job with cache } := by
  unfold cacheOf at alike
  by_cases used : job.usesCache = true
  · rw [if_pos used] at alike
    refine ⟨{ schedule.session with cache }, if_pos used,
      ⟨alike, fun off => absurd used (by simp [off]), rfl⟩, ?_⟩
    simp [view, cacheOf, used]
  · rw [if_neg used] at alike
    refine ⟨schedule.session, if_neg used, schedule.worked_self job, ?_⟩
    simp [view, cacheOf, used, QueryCache.isDisabled_eq_true.mp alike]

/-! ### Turns -/

/-- A turn of a job from which `left` is still to come: it ends the task or has it ask. The number of
answers that came in is `answered` afterwards. -/
inductive Turned (engine : Engine) (schedule : Schedule) (index : Nat) (job : Job) (answered : Nat)
    (left : Session × Except QueryError Table) : Schedule → Prop where
  | ended {session : Session} (worked : schedule.Worked job session)
    (seen : { schedule with session, answered }.view job = left.1) :
    Turned engine schedule index job answered left
      ({ schedule with session, answered }.finish index job left.2)
  | asked {session : Session} {sql : String} {stage : TaskStage} (worked : schedule.Worked job session)
    (asks : stage.HasAsked)
    (fewer : stage.turnsLeft < job.stage.turnsLeft)
    (left_eq : Session.resume engine (({ schedule with session, answered }.view job).record sql) job.task
      session.sent.length stage = left) :
    Turned engine schedule index job answered left
      ({ schedule with session := session.record sql, answered, aside := index :: schedule.aside }.setStage
        index stage)

theorem Turned.of_worked {session : Session} {number answered : Nat}
    {left : Session × Except QueryError Table} {after : Schedule} (worked : schedule.Worked job session)
    (turned : Turned engine { schedule with session, answered := number } index job answered left after) :
    Turned engine schedule index job answered left after := by
  cases turned with
  | ended later seen => exact .ended (later.trans worked) seen
  | asked later asks fewer left_eq => exact .asked (later.trans worked) asks fewer left_eq

theorem turned_finish (outcome : Except QueryError Table) :
    Turned engine schedule index job schedule.answered (schedule.view job, outcome)
      (schedule.finish index job outcome) := .ended (schedule.worked_self job) rfl

theorem turned_ask {measures : List Measure} (stage : Statement → TaskStage)
    (asks : ∀ statement, (stage statement).HasAsked)
    (fewer : ∀ statement, (stage statement).turnsLeft < job.stage.turnsLeft)
    {left : Session × Except QueryError Table}
    (refused : ∀ error, engine.sql (job.task.statementFor measures) = .error error →
      left = (schedule.view job, .error error))
    (sent : ∀ sql, engine.sql (job.task.statementFor measures) = .ok sql →
      Session.resume engine ((schedule.view job).record sql) job.task schedule.session.sent.length
        (stage (job.task.statementFor measures)) = left) :
    Turned engine schedule index job schedule.answered left
      (schedule.ask engine index job measures stage) := by
  unfold ask
  simp only
  split
  · next error written =>
    obtain rfl := refused error written
    exact turned_finish _
  · next sql written => exact .asked (schedule.worked_self job) (asks _) (fewer _) (sent sql written)

theorem turned_settle (early : 1 < job.stage.turnsLeft) (outcome : Except QueryError (Option Table)) :
    Turned engine schedule index job schedule.answered ((schedule.view job).settle engine job.task outcome)
      (schedule.settle engine index job outcome) := by
  match outcome with
  | .error error => exact turned_finish _
  | .ok (some table) => exact turned_finish _
  | .ok none =>
    refine turned_ask .askedAll (fun _ => trivial) (fun _ => early) (fun error written => ?_)
      fun sql written => ?_
    · simp [Session.settle, Session.refetch, Session.send, Engine.execute, written, Plan.ScopeTask.storeAll]
    · simp [Session.settle, Session.refetch, Session.send, Engine.execute, written, Session.resume,
        Session.record, view]

theorem turned_settle_setCache {cache : QueryCache}
    (alike : cache.isDisabled = (schedule.cacheOf job).isDisabled) (early : 1 < job.stage.turnsLeft)
    (outcome : Except QueryError (Option Table)) :
    Turned engine schedule index job schedule.answered
      (Session.settle engine { schedule.view job with cache } job.task outcome)
      ((schedule.setCache job cache).settle engine index job outcome) := by
  obtain ⟨session, set_eq, worked, seen⟩ := exists_setCache_eq alike
  rw [set_eq, ← seen]
  exact (turned_settle early outcome).of_worked worked

theorem turned_start (early : 2 < job.stage.turnsLeft) :
    Turned engine schedule index job schedule.answered ((schedule.view job).fetch engine job.task)
      (schedule.start engine index job) := by
  let cached := (job.task.lookup (schedule.cacheOf job)).1
  let missing := (job.task.lookup (schedule.cacheOf job)).2
  by_cases complete : missing.isEmpty = true
  · have fetched : (schedule.view job).fetch engine job.task =
        Session.settle engine
          { schedule.view job with cache := (job.task.completeRaw (schedule.cacheOf job) cached).1 } job.task
          (job.task.completeRaw (schedule.cacheOf job) cached).2 := if_pos complete
    have started : schedule.start engine index job =
        (schedule.setCache job (job.task.completeRaw (schedule.cacheOf job) cached).1).settle engine index job
          (job.task.completeRaw (schedule.cacheOf job) cached).2 := if_pos complete
    rw [fetched, started]
    exact turned_settle_setCache (job.task.isDisabled_completeRaw _ _) (by omega) _
  · let asked := (schedule.view job).send engine (job.task.statementFor missing)
    let completed := job.task.completeAnswer asked.1.cache cached missing asked.2
    have fetched : (schedule.view job).fetch engine job.task =
      Session.settle engine { asked.1 with cache := completed.1 } job.task completed.2 := if_neg complete
    have started : schedule.start engine index job =
      schedule.ask engine index job missing (.asked cached missing) := if_neg complete
    rw [fetched, started]
    refine turned_ask (.asked cached missing) (fun _ => trivial) (fun _ => early) (fun error written => ?_)
      fun sql written => ?_
    · simp only [completed, asked, Session.send, Engine.execute, written]
      rfl
    · simp only [completed, asked, Session.send, Engine.execute, written]
      rfl

/-- A turn of a job that has asked. -/
theorem turned_turn (asked : job.stage.HasAsked) :
    Turned engine schedule index job (schedule.answered + 1)
      ((schedule.view job).resume engine job.task schedule.answered job.stage)
      (schedule.turn engine index job) := by
  let taken : Schedule := { schedule with answered := schedule.answered + 1 }
  obtain ⟨query, uses, task, stage⟩ := job
  cases stage with
  | start | placed | locked | done outcome => cases asked
  | asked cached missing statement =>
    have alike := task.isDisabled_completeAnswer
      (taken.cacheOf ⟨query, uses, task, .asked cached missing statement⟩) cached missing
      (engine.receive schedule.answered statement)
    exact (turned_settle_setCache alike Nat.one_lt_two _).of_worked (schedule.worked_self _)
  | askedAll statement =>
    have alike := task.isDisabled_storeAll (taken.cacheOf ⟨query, uses, task, .askedAll statement⟩)
      (engine.receive schedule.answered statement)
    obtain ⟨session, set_eq, worked, seen⟩ := exists_setCache_eq alike
    unfold turn take
    simp only
    rw [set_eq]
    exact .ended ⟨worked.alike, worked.kept, worked.sent⟩ seen

/-! ### Runs -/

/-- So many turns bring a schedule to another. -/
def Reaches (engine : Engine) (schedule : Schedule) (turns : Nat) (after : Schedule) : Prop :=
  ∀ more, run engine (turns + more) schedule = run engine more after

theorem Reaches.trans {first second third : Schedule} {turns others : Nat}
    (there : Reaches engine first turns second) (on : Reaches engine second others third) :
    Reaches engine first (turns + others) third := by
  intro more
  rw [Nat.add_assoc, there, on]

theorem reaches_turn {line : List Nat} (next : schedule.lineUp.line = index :: line)
    (here : schedule.lineUp.jobs[index]? = some job) :
    Reaches engine schedule 1 ({ schedule.lineUp with line }.turn engine index job) := by
  intro more
  rw [Nat.add_comm, run]
  simp only
  rw [next]
  simp only
  rw [here]

end Schedule

/-! ### One place -/

namespace Session

/-- The session as the tasks of a query see it. -/
def seenBy (uses : Bool) (session : Session) : Session :=
  { session with cache := if uses then session.cache else .disabled }

/-- A session that its tasks took to what they see as `seen`; a cache that they do not use is untouched. -/
structure Became (uses : Bool) (session seen later : Session) : Prop where
  seen : later.seenBy uses = seen
  kept : uses = false → later.cache = session.cache

theorem Became.trans {uses : Bool} {session middle later seen last : Session}
    (first : session.Became uses seen middle) (second : middle.Became uses last later) :
    session.Became uses last later where
  seen := second.seen
  kept off := (second.kept off).trans (first.kept off)

end Session

namespace Schedule

variable {uses : Bool} {session : Session} {done back : List Job} {tasks : List Plan.ScopeTask}

def jobOf (uses : Bool) (stage : TaskStage) (task : Plan.ScopeTask) : Job := ⟨0, uses, task, stage⟩

/-- A query with one place whose tasks so far are done, while those to come stand in line. -/
def queued (uses : Bool) (session : Session) (done : List Job) (tasks : List Plan.ScopeTask) : Schedule :=
  ⟨session, session.sent.length, done ++ tasks.map (jobOf uses .start),
    List.range' done.length tasks.length, [], [⟨1, []⟩], []⟩

/-- Those to come wait for the place, which the first of them has got. -/
def handedOver (uses : Bool) (session : Session) (done : List Job) : List Plan.ScopeTask → Schedule
  | [] => ⟨session, session.sent.length, done, [], [], [⟨1, []⟩], []⟩
  | task :: rest => ⟨session, session.sent.length, done ++ (task :: rest).map (jobOf uses .placed),
    [done.length], [], [⟨0, List.range' (done.length + 1) rest.length⟩], []⟩

/-- A task holds the place and its lock; others are in line, wait for the place or have stepped aside. -/
def serving (uses : Bool) (session : Session) (answered : Nat) (jobs : List Job) (key : ScopeKey)
    (line aside waiting : List Nat) : Schedule :=
  ⟨session, answered, jobs, line, aside, [⟨0, waiting⟩],
    if (session.seenBy uses).cache.isDisabled then [] else [⟨key, []⟩]⟩

/-- The place goes to the first that waits, who lines up. -/
def passPlace (session : Session) (answered : Nat) (jobs : List Job) (line : List Nat) : List Nat → Schedule
  | [] => ⟨session, answered, jobs, line, [], [⟨1, []⟩], []⟩
  | next :: waiting => ⟨session, answered, jobs, line ++ [next], [], [⟨0, waiting⟩], []⟩

theorem getElem?_middle (done : List Job) (job : Job) (back : List Job) :
    (done ++ job :: back)[done.length]? = some job := by simp

theorem setStage_middle {old : TaskStage} (jobs_eq : schedule.jobs = done ++ jobOf uses old task :: back)
    (stage : TaskStage) : schedule.setStage done.length stage =
      { schedule with jobs := done ++ jobOf uses stage task :: back } := by
  unfold setStage
  rw [jobs_eq, List.modify_eq_set_getElem?, getElem?_middle]
  simp [jobOf]

variable {answered : Nat} {stage : TaskStage} {line aside waiting : List Nat}

theorem finish_serving (old : TaskStage) (outcome : Except QueryError Table) :
    (serving uses session answered (done ++ jobOf uses old task :: back) task.key line [] waiting).finish
        done.length (jobOf uses stage task) outcome =
      passPlace session answered (done ++ jobOf uses (.done (task.finish outcome)) task :: back) line waiting := by
  have left (jobs : List Job) :
      (serving uses session answered jobs task.key line [] waiting).leaveLock (jobOf uses stage task) =
        ⟨session, answered, jobs, line, [], [⟨0, waiting⟩], []⟩ := by
    have seen : (serving uses session answered jobs task.key line [] waiting).cacheOf (jobOf uses stage task) =
      (session.seenBy uses).cache := rfl
    unfold leaveLock
    rw [seen]
    by_cases off : (session.seenBy uses).cache.isDisabled = true
    · rw [if_pos off, serving, if_pos off]
    · rw [if_neg off, serving, if_neg off]
      simp [jobOf]
  unfold finish
  rw [setStage_middle rfl]
  show ((serving uses session answered _ task.key line [] waiting).leaveLock _).leavePlace _ = _
  rw [left]
  cases waiting <;> rfl

theorem serving_alike {jobs : List Job} {key : ScopeKey} {later : Session}
    (alike : later.cache.isDisabled = session.cache.isDisabled) :
    serving uses later answered jobs key line aside waiting =
      ⟨later, answered, jobs, line, aside, [⟨0, waiting⟩],
        if (session.seenBy uses).cache.isDisabled then [] else [⟨key, []⟩]⟩ := by
  have same : (later.seenBy uses).cache.isDisabled = (session.seenBy uses).cache.isDisabled := by
    cases uses
    · rfl
    · exact alike
  unfold serving
  rw [same]

/-- A task that waits for an answer, and has stepped aside alone, comes to its end. -/
theorem reaches_of_hasAsked (engine : Engine) (uses : Bool) (task : Plan.ScopeTask) (done back : List Job)
    (waiting : List Nat) (asked : stage.HasAsked) (sent : session.sent.length = answered + 1) :
    ∃ turns ≤ stage.turnsLeft, ∃ later : Session,
      Reaches engine
        (serving uses session answered (done ++ jobOf uses stage task :: back) task.key [] [done.length] waiting)
        turns
        (passPlace later later.sent.length (done ++ jobOf uses (.done (task.finish
          ((session.seenBy uses).resume engine task answered stage).2)) task :: back) [] waiting) ∧
      session.Became uses ((session.seenBy uses).resume engine task answered stage).1 later := by
  induction rank : stage.turnsLeft using Nat.strong_induction_on generalizing stage session answered with
  | _ rank' ih =>
    subst rank
    let alone := serving uses session answered (done ++ jobOf uses stage task :: back) task.key [] [] waiting
    have first : Reaches engine
        (serving uses session answered (done ++ jobOf uses stage task :: back) task.key [] [done.length] waiting) 1
        (alone.turn engine done.length (jobOf uses stage task)) := reaches_turn rfl (getElem?_middle done _ back)
    have turned : Turned engine alone done.length (jobOf uses stage task) (answered + 1)
      ((session.seenBy uses).resume engine task answered stage)
      (alone.turn engine done.length (jobOf uses stage task)) := turned_turn asked
    generalize alone.turn engine done.length (jobOf uses stage task) = after at first turned
    generalize (session.seenBy uses).resume engine task answered stage = left at turned ⊢
    cases turned with
    | @ended later worked seen =>
      have count : later.sent.length = answered + 1 := by rw [worked.sent]; exact sent
      have alike : later.cache.isDisabled = session.cache.isDisabled := worked.alike
      refine ⟨1, asked.turnsLeft.1, later, ?_, ⟨seen, worked.kept⟩⟩
      rw [count, ← finish_serving stage, serving_alike alike]
      exact first
    | @asked later sql next worked asks fewer left_eq =>
      have fewer : next.turnsLeft < stage.turnsLeft := fewer
      have number : later.sent.length = answered + 1 := by rw [worked.sent]; exact sent
      have count : (later.record sql).sent.length = answered + 1 + 1 := by
        rw [← number]
        simp [Session.record]
      obtain ⟨turns, few, final, on, became⟩ := ih _ fewer asks count rfl
      have alike : (later.record sql).cache.isDisabled = session.cache.isDisabled := worked.alike
      rw [serving_alike alike] at on
      rw [setStage_middle rfl] at first
      rw [number] at left_eq
      exact ⟨1 + turns, by omega, final, first.trans (left_eq ▸ on), left_eq ▸ became.seen,
        fun off => (became.kept off).trans (worked.kept off)⟩

/-- Whoever is in line has to wait for the place. -/
theorem reaches_waiting (engine : Engine) (uses : Bool) (session : Session) (answered : Nat)
    (front : List Job) (rest : List Plan.ScopeTask) (key : ScopeKey) (aside waiting : List Nat) :
    Reaches engine
      (serving uses session answered (front ++ rest.map (jobOf uses .start)) key
        (List.range' front.length rest.length) aside waiting) rest.length
      (serving uses session answered (front ++ rest.map (jobOf uses .placed)) key [] aside
        (waiting ++ List.range' front.length rest.length)) := by
  induction rest generalizing front waiting with
  | nil =>
    intro more
    simp
  | cons task rest ih =>
    let popped := serving uses session answered (front ++ (task :: rest).map (jobOf uses .start)) key
      (List.range' (front.length + 1) rest.length) aside waiting
    have first : Reaches engine
        (serving uses session answered (front ++ (task :: rest).map (jobOf uses .start)) key
          (List.range' front.length (rest.length + 1)) aside waiting) 1
        (popped.turn engine front.length (jobOf uses .start task)) :=
      reaches_turn rfl (getElem?_middle front _ _)
    have waits : popped.turn engine front.length (jobOf uses .start task) =
      { popped.setStage front.length .placed with places := [⟨0, waiting ++ [front.length]⟩] } := rfl
    have turned : { popped.setStage front.length .placed with places := [⟨0, waiting ++ [front.length]⟩] } =
        serving uses session answered ((front ++ [jobOf uses .placed task]) ++ rest.map (jobOf uses .start)) key
          (List.range' (front ++ [jobOf uses .placed task]).length rest.length) aside
          (waiting ++ [front.length]) := by
      rw [setStage_middle rfl]
      simp [popped, serving]
    rw [waits, turned] at first
    have on := first.trans (ih (front ++ [jobOf uses .placed task]) (waiting ++ [front.length]))
    rw [Nat.add_comm 1] at on
    simpa [List.range'_succ] using on

/-! ### A task after the other -/

/-- Nobody holds the lock of a task whose turn it is. -/
theorem lockAndStart_unlocked (old : TaskStage) :
    (⟨session, answered, done ++ jobOf uses old task :: back, line, aside, [⟨0, waiting⟩], []⟩ :
        Schedule).lockAndStart engine done.length (jobOf uses stage task) =
      (serving uses session answered (done ++ jobOf uses .locked task :: back) task.key line aside
        waiting).start engine done.length (jobOf uses stage task) := by
  let unlocked : Schedule :=
    ⟨session, answered, done ++ jobOf uses old task :: back, line, aside, [⟨0, waiting⟩], []⟩
  have locked : unlocked.takeLock done.length (jobOf uses stage task) =
      (serving uses session answered (done ++ jobOf uses .locked task :: back) task.key line aside waiting,
        true) := by
    have seen : unlocked.cacheOf (jobOf uses stage task) = (session.seenBy uses).cache := rfl
    unfold takeLock serving
    rw [setStage_middle rfl, seen]
    by_cases off : (session.seenBy uses).cache.isDisabled = true
    · rw [if_pos off, if_pos off]
    · rw [if_neg off, if_neg off]
      rfl
  show unlocked.lockAndStart engine done.length (jobOf uses stage task) = _
  unfold lockAndStart
  rw [locked]

theorem reaches_start_queued (task : Plan.ScopeTask) (rest : List Plan.ScopeTask) :
    Reaches engine (queued uses session done (task :: rest)) 1
      ((serving uses session session.sent.length (done ++ jobOf uses .locked task :: rest.map (jobOf uses .start))
        task.key (List.range' (done.length + 1) rest.length) [] []).start engine done.length
          (jobOf uses .start task)) := by
  let popped : Schedule :=
    { queued uses session done (task :: rest) with line := List.range' (done.length + 1) rest.length }
  have first : Reaches engine (queued uses session done (task :: rest)) 1
      (popped.turn engine done.length (jobOf uses .start task)) :=
    reaches_turn rfl (getElem?_middle done _ _)
  have placed : popped.turn engine done.length (jobOf uses .start task) =
    Schedule.lockAndStart engine { popped.setStage done.length .placed with places := [⟨0, []⟩] } done.length
      (jobOf uses .start task) := rfl
  rw [placed, setStage_middle rfl] at first
  rw [← lockAndStart_unlocked .placed]
  exact first

theorem reaches_start_handedOver (task : Plan.ScopeTask) (rest : List Plan.ScopeTask) :
    Reaches engine (handedOver uses session done (task :: rest)) 1
      ((serving uses session session.sent.length (done ++ jobOf uses .locked task :: rest.map (jobOf uses .placed))
        task.key [] [] (List.range' (done.length + 1) rest.length)).start engine done.length
          (jobOf uses .placed task)) := by
  let popped : Schedule := { handedOver uses session done (task :: rest) with line := [] }
  have first : Reaches engine (handedOver uses session done (task :: rest)) 1
      (popped.turn engine done.length (jobOf uses .placed task)) :=
    reaches_turn rfl (getElem?_middle done _ _)
  rw [← lockAndStart_unlocked .placed]
  exact first

/-- A task that has its place and its lock is done at once, or it waits for an answer. -/
theorem turned_locked (stage : TaskStage) (early : 2 < stage.turnsLeft) :
    let serves := serving uses session session.sent.length (done ++ jobOf uses .locked task :: back) task.key line
      [] waiting
    let fetched := (session.seenBy uses).fetch engine task
    (∃ later, serves.start engine done.length (jobOf uses stage task) = passPlace later later.sent.length
        (done ++ jobOf uses (.done (task.finish fetched.2)) task :: back) line waiting ∧
      session.Became uses fetched.1 later) ∨
    ∃ later next, TaskStage.HasAsked next ∧ later.sent.length = session.sent.length + 1 ∧
      serves.start engine done.length (jobOf uses stage task) = serving uses later session.sent.length
        (done ++ jobOf uses next task :: back) task.key line [done.length] waiting ∧
      (uses = false → later.cache = session.cache) ∧
      (later.seenBy uses).resume engine task session.sent.length next = fetched := by
  intro serves fetched
  have turned : Turned engine serves done.length (jobOf uses stage task) session.sent.length fetched
    (serves.start engine done.length (jobOf uses stage task)) := turned_start early
  generalize serves.start engine done.length (jobOf uses stage task) = after at turned ⊢
  cases turned with
  | @ended later worked seen =>
    have alike : later.cache.isDisabled = session.cache.isDisabled := worked.alike
    have count : later.sent.length = session.sent.length := by rw [worked.sent]; rfl
    refine .inl ⟨later, ?_, seen, worked.kept⟩
    rw [count, ← finish_serving .locked, serving_alike alike]
    rfl
  | @asked later sql next worked asks fewer left_eq =>
    have alike : (later.record sql).cache.isDisabled = session.cache.isDisabled := worked.alike
    have number : later.sent.length = session.sent.length := by rw [worked.sent]; rfl
    refine .inr ⟨later.record sql, next, asks, ?_, ?_, worked.kept, ?_⟩
    · rw [← number]
      simp [Session.record]
    · rw [setStage_middle rfl, serving_alike alike]
      rfl
    · rw [← number]
      exact left_eq

/-- Tasks that are done, with what they came to. -/
def doneJobs (uses : Bool) (tasks : List Plan.ScopeTask) (outcomes : List (Except QueryError Table)) : List Job :=
  List.zipWith (fun task outcome => jobOf uses (.done outcome) task) tasks outcomes

theorem passPlace_handedOver {later : Session} (last : Job) (rest : List Plan.ScopeTask) :
    passPlace later later.sent.length (done ++ last :: rest.map (jobOf uses .placed)) []
        (List.range' (done.length + 1) rest.length) =
      handedOver uses later (done ++ [last]) rest := by
  cases rest with
  | nil => rfl
  | cons task rest => simp [passPlace, handedOver, List.range'_succ]

theorem passPlace_queued {later : Session} (last : Job) (rest : List Plan.ScopeTask) :
    passPlace later later.sent.length (done ++ last :: rest.map (jobOf uses .start))
        (List.range' (done.length + 1) rest.length) [] =
      queued uses later (done ++ [last]) rest := by
  simp [passPlace, queued]

/-- The answer comes while the others wait for the place, and the place is handed on. -/
theorem reaches_answered (done : List Job) {later : Session} {fetched : Session × Except QueryError Table}
    (asks : stage.HasAsked) (count : later.sent.length = answered + 1)
    (kept : uses = false → later.cache = session.cache)
    (left_eq : (later.seenBy uses).resume engine task answered stage = fetched) (rest : List Plan.ScopeTask) :
    ∃ turns ≤ 2, ∃ middle, session.Became uses fetched.1 middle ∧
      Reaches engine
        (serving uses later answered (done ++ jobOf uses stage task :: rest.map (jobOf uses .placed)) task.key []
          [done.length] (List.range' (done.length + 1) rest.length)) turns
        (handedOver uses middle (done ++ [jobOf uses (.done (task.finish fetched.2)) task]) rest) := by
  obtain ⟨turns, few, middle, on, became⟩ := reaches_of_hasAsked engine uses task done
    (rest.map (jobOf uses .placed)) (List.range' (done.length + 1) rest.length) asks count
  rw [left_eq] at on became
  rw [passPlace_handedOver] at on
  exact ⟨turns, few.trans asks.turnsLeft.2, middle,
    ⟨became.seen, fun off => (became.kept off).trans (kept off)⟩, on⟩

/-- The run of the tasks that wait for the place. -/
theorem reaches_handedOver (engine : Engine) (uses : Bool) (tasks : List Plan.ScopeTask) (session : Session)
    (done : List Job) :
    let ran := (session.seenBy uses).runTasks engine tasks
    ∃ turns ≤ 3 * tasks.length, ∃ later, session.Became uses ran.1 later ∧
      Reaches engine (handedOver uses session done tasks) turns
        (handedOver uses later (done ++ doneJobs uses tasks ran.2) []) := by
  induction tasks generalizing session done with
  | nil =>
    intro ran
    refine ⟨0, Nat.le_refl _, session, ⟨rfl, fun _ => rfl⟩, fun more => ?_⟩
    rw [Nat.zero_add, doneJobs, List.zipWith_nil_left, List.append_nil]
  | cons task rest ih =>
    intro ran
    let fetched := (session.seenBy uses).fetch engine task
    let job := jobOf uses (.done (task.finish fetched.2)) task
    obtain ⟨turns, few, middle, became, there⟩ : ∃ turns ≤ 3, ∃ middle,
        session.Became uses fetched.1 middle ∧
          Reaches engine (handedOver uses session done (task :: rest)) turns
            (handedOver uses middle (done ++ [job]) rest) := by
      have first : Reaches engine (handedOver uses session done (task :: rest)) 1 _ :=
        reaches_start_handedOver task rest
      rcases turned_locked .placed (by decide) with ⟨later, started, became⟩ |
        ⟨later, next, asks, count, started, kept, left_eq⟩
      · rw [started, passPlace_handedOver] at first
        exact ⟨1, by decide, later, became, first⟩
      · obtain ⟨turns, few, middle, became, on⟩ := reaches_answered done asks count kept left_eq rest
        rw [started] at first
        exact ⟨1 + turns, by omega, middle, became, first.trans on⟩
    obtain ⟨others, fewOthers, final, last, on⟩ := ih middle (done ++ [job])
    rw [became.seen] at last on
    rw [List.append_assoc] at on
    exact ⟨turns + others, by rw [List.length_cons]; omega, final, became.trans last, there.trans on⟩

/-- The run of the tasks that stand in line: as long as no statement is sent one follows the other there,
and those behind the first that asks wait for the place. -/
theorem reaches_queued (engine : Engine) (uses : Bool) (tasks : List Plan.ScopeTask) (session : Session)
    (done : List Job) :
    let ran := (session.seenBy uses).runTasks engine tasks
    ∃ turns ≤ 4 * tasks.length, ∃ later, session.Became uses ran.1 later ∧
      Reaches engine (queued uses session done tasks) turns
        (handedOver uses later (done ++ doneJobs uses tasks ran.2) []) := by
  induction tasks generalizing session done with
  | nil =>
    intro ran
    refine ⟨0, Nat.le_refl _, session, ⟨rfl, fun _ => rfl⟩, fun more => ?_⟩
    rw [Nat.zero_add, doneJobs, List.zipWith_nil_left, queued, List.map_nil]
    rfl
  | cons task rest ih =>
    intro ran
    let fetched := (session.seenBy uses).fetch engine task
    let job := jobOf uses (.done (task.finish fetched.2)) task
    have first : Reaches engine (queued uses session done (task :: rest)) 1 _ := reaches_start_queued task rest
    rcases turned_locked .start (by decide) with ⟨later, started, became⟩ |
      ⟨later, next, asks, count, started, kept, left_eq⟩
    · rw [started, passPlace_queued] at first
      obtain ⟨others, few, final, last, on⟩ := ih later (done ++ [job])
      rw [became.seen] at last on
      rw [List.append_assoc] at on
      exact ⟨1 + others, by rw [List.length_cons]; omega, final, became.trans last, first.trans on⟩
    · -- The others have their turns before the answer comes.
      have waits := reaches_waiting engine uses later session.sent.length
        (done ++ [jobOf uses next task]) rest task.key [done.length] []
      simp only [List.append_assoc, List.singleton_append, List.length_append, List.length_singleton,
        List.nil_append] at waits
      obtain ⟨turns, few, middle, became, there⟩ := reaches_answered done asks count kept left_eq rest
      obtain ⟨others, fewOthers, final, last, on⟩ :=
        reaches_handedOver engine uses rest middle (done ++ [job])
      rw [became.seen] at last on
      rw [List.append_assoc] at on
      rw [started] at first
      exact ⟨1 + (rest.length + (turns + others)), by rw [List.length_cons]; omega, final, became.trans last,
        first.trans (waits.trans (there.trans on))⟩

theorem run_handedOver_nil (more : Nat) (session : Session) (done : List Job) :
    run engine more (handedOver uses session done []) = handedOver uses session done [] := by
  cases more <;> rfl

theorem outcomes_doneJobs (uses : Bool) {outcomes : List (Except QueryError Table)}
    (same : outcomes.length = tasks.length) :
    ((doneJobs uses tasks outcomes).filter (·.query = 0)).filterMap outcome? = outcomes := by
  induction tasks generalizing outcomes with
  | nil => exact (List.length_eq_zero_iff.mp same).symm
  | cons task rest ih =>
    obtain ⟨outcome, others, rfl⟩ := List.exists_cons_of_length_eq_add_one same
    exact congrArg (outcome :: ·) (ih (Nat.succ.inj same))

theorem ofQueries_one (session : Session) {maxConcurrent : Nat} (one : maxConcurrent ≤ 1)
    (planned : PlannedQuery) :
    ofQueries session maxConcurrent [planned] = queued planned.usesCache session [] planned.tasks := by
  have place : max maxConcurrent 1 = 1 := Nat.max_eq_right one
  simp [ofQueries, jobsOf, queued, jobOf, place, List.range_eq_range']

end Schedule

namespace Session

theorem length_runTasks (engine : Engine) (session : Session) (tasks : List Plan.ScopeTask) :
    (session.runTasks engine tasks).2.length = tasks.length := by
  induction tasks generalizing session with
  | nil => rfl
  | cons task rest ih => exact congrArg (· + 1) (ih _)

theorem Became.eq {uses : Bool} {session seen later : Session} (became : session.Became uses seen later) :
    later = if uses then seen else { seen with cache := session.cache } := by
  obtain ⟨rfl, kept⟩ := became
  cases uses with
  | true => rfl
  | false =>
    rw [if_neg Bool.false_ne_true, ← kept rfl]
    rfl

theorem runPlanned_eq (session : Session) (planned : PlannedQuery) {later : Session}
    (became : session.Became planned.usesCache
      ((session.seenBy planned.usesCache).runTasks engine planned.tasks).1 later) :
    session.runPlanned engine planned =
      (later, planned.result ((session.seenBy planned.usesCache).runTasks engine planned.tasks).2) := by
  rw [became.eq]
  unfold runPlanned
  cases planned.usesCache <;> rfl

/-- With one place, the tasks of a query that give way run as they do in turn. -/
theorem runInterleaved_one (engine : Engine) (session : Session) {maxConcurrent : Nat} (one : maxConcurrent ≤ 1)
    (planned : PlannedQuery) :
    session.runInterleaved engine maxConcurrent [planned] =
      ((session.runPlanned engine planned).1, [(session.runPlanned engine planned).2]) := by
  obtain ⟨turns, few, later, became, reached⟩ :=
    Schedule.reaches_queued engine planned.usesCache planned.tasks session []
  have bound : Schedule.turnBound (Schedule.queued planned.usesCache session [] planned.tasks).jobs =
      turns + (5 * planned.tasks.length - turns) := by
    simp only [Schedule.turnBound, Schedule.queued, List.nil_append, List.length_map]
    omega
  unfold runInterleaved
  rw [Schedule.ofQueries_one session one]
  simp only
  rw [bound, reached, Schedule.run_handedOver_nil, session.runPlanned_eq planned became]
  have outcomes := Schedule.outcomes_doneJobs planned.usesCache
    (length_runTasks engine (session.seenBy planned.usesCache) planned.tasks)
  exact congrArg (fun outcomes => (later, [planned.result outcomes])) outcomes

/-! ### Queries that are started together -/

/-- Executes queries one after another. -/
def executeInTurn (engine : Engine) (session : Session) : List Query → Session × List (Except QueryError Table)
  | [] => (session, [])
  | query :: rest =>
    let (ran, result) := session.execute engine query
    let (done, results) := ran.executeInTurn engine rest
    (done, result :: results)

theorem prepare_eq_self {session : Session} {action : CacheAction} (kept : action ≠ .invalidate) :
    session.prepare action = session := by
  cases action with
  | use | notUse => rfl
  | invalidate => exact absurd rfl kept

/-- The results of queries whose plans are made, one after another. -/
def assembledInTurn (engine : Engine) (session : Session) (planned : List (Except QueryError PlannedQuery)) :
    Session × List (Except QueryError Table) :=
  let (done, results) := session.runInTurn engine (plannedOnly planned)
  (done, assemble planned results)

theorem assembledInTurn_cons (engine : Engine) (session : Session) (query : Query)
    (others : List (Except QueryError PlannedQuery)) :
    (session.prepare query.cacheAction).assembledInTurn engine (PlannedQuery.of engine query :: others) =
      let done := (session.execute engine query).1.assembledInTurn engine others
      (done.1, (session.execute engine query).2 :: done.2) := by
  unfold execute
  cases PlannedQuery.of engine query <;> rfl

theorem planAll_eq (session : Session) {queries : List Query}
    (kept : ∀ query ∈ queries, query.cacheAction ≠ .invalidate) :
    session.planAll engine queries = (session, queries.map (PlannedQuery.of engine)) := by
  induction queries generalizing session with
  | nil => rfl
  | cons query rest ih =>
    obtain ⟨first, others⟩ := List.forall_mem_cons.mp kept
    rw [planAll, prepare_eq_self first, ih session others]
    rfl

theorem assembledInTurn_eq (session : Session) {queries : List Query}
    (kept : ∀ query ∈ queries, query.cacheAction ≠ .invalidate) :
    session.assembledInTurn engine (queries.map (PlannedQuery.of engine)) =
      session.executeInTurn engine queries := by
  induction queries generalizing session with
  | nil => rfl
  | cons query rest ih =>
    obtain ⟨first, others⟩ := List.forall_mem_cons.mp kept
    have step := assembledInTurn_cons engine session query (rest.map (PlannedQuery.of engine))
    rw [prepare_eq_self first, ih _ others] at step
    exact step

/-- Tasks that do not give way: queries that are started together are executed one after another, unless
a query behind the first clears the cache. -/
theorem executeAll_inTurn (session : Session) (maxConcurrent : Nat) (queries : List Query)
    (kept : ∀ query ∈ queries.tail, query.cacheAction ≠ .invalidate) :
    session.executeAll engine maxConcurrent false queries = session.executeInTurn engine queries := by
  cases queries with
  | nil => rfl
  | cons query rest =>
    rw [List.tail_cons] at kept
    have planned : session.planAll engine (query :: rest) =
        (session.prepare query.cacheAction, PlannedQuery.of engine query :: rest.map (PlannedQuery.of engine)) := by
      rw [planAll, planAll_eq _ kept]
    have step := assembledInTurn_cons engine session query (rest.map (PlannedQuery.of engine))
    rw [assembledInTurn_eq _ kept] at step
    unfold executeAll
    rw [planned]
    exact step

/-- A query that is started alone is executed, whether its tasks give way or not, if only one of them runs
at a time. -/
theorem executeAll_one (session : Session) (query : Query) {maxConcurrent : Nat} {givesWay : Bool}
    (one : givesWay = true → maxConcurrent ≤ 1) :
    session.executeAll engine maxConcurrent givesWay [query] =
      ((session.execute engine query).1, [(session.execute engine query).2]) := by
  cases givesWay with
  | false => exact executeAll_inTurn session maxConcurrent [query] (List.forall_mem_nil _)
  | true =>
    unfold executeAll execute planAll planAll
    cases PlannedQuery.of engine query with
    | error error => rfl
    | ok planned =>
      have ran := runInterleaved_one engine (session.prepare query.cacheAction) (one rfl) planned
      simp only [plannedOnly, List.filterMap_cons, List.filterMap_nil, ran]
      rfl

end Session

end CubeQuery
