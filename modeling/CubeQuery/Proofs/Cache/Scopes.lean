import CubeQuery.Proofs.Cache.Runs

/-! What scopes give through a cache, against what they give without one: the same table, unless the
scope groups by nothing and is cached as a whole. Then its rows are lost. -/

namespace CubeQuery

open Steps

variable {engine : Engine} {frame : Statement → List Column} {column : Statement → TypedMeasure → Column}
  {reach : Reach} {task : Plan.ScopeTask}

/-! ### One scope -/

theorem Session.served_of_fetch (backend : engine.Columnwise frame column)
    (sound : task.Sound engine reach) {session : Session} (off : session.cache = .disabled)
    {table : Table} (fetched : (session.fetch engine task).2 = .ok table) :
    task.Served engine (engine.layoutOf frame column task) := by
  have lookup : task.lookup session.cache = ([], task.measures) := by
    rw [task.lookup_eq, off]
    exact Prod.ext (List.filter_eq_nil_iff.mpr fun _ _ => Bool.false_ne_true) (filter_every _)
  have asked : task.measures.isEmpty = false := by simpa using sound.compiled.asked
  unfold fetch send at fetched
  rw [lookup] at fetched
  simp only [asked] at fetched
  rcases executed : engine.execute session.sent (task.statementFor task.measures) with ⟨sent, answer⟩
  rw [executed] at fetched
  cases answer with
  | error error => cases fetched
  | ok answer => exact sound.served backend (Engine.receive_of_execute executed)

/-- A scope that groups by nothing and is cached as a whole loses its rows. -/
def Plan.ScopeTask.LosesRows (task : Plan.ScopeTask) (cache : QueryCache) (table : Table) : Prop :=
  task.scope.columns = [] ∧ task.Cached cache ∧ table.rowCount ≠ 0

/-- A fetch gives what the database has, but for the rows that are lost. -/
theorem Session.fetch_follows (compiled : task.Compiled engine) {layout : Layout}
    (served : task.Served engine layout) (points : layout.PointsDetermineRows task.measures)
    {session : Session}
    (holds : ∀ cache, session.cache = .memory cache → cache.Holds task.key layout task.measures) :
    ∃ table, (session.fetch engine task).2 = .ok table ∧
      (task.LosesRows session.cache (layout.table task.measures) →
        layout.front = [] ∧ table.Hollow (layout.table task.measures)) ∧
      (¬task.LosesRows session.cache (layout.table task.measures) →
        table.Agrees (layout.table task.measures)) := by
  rcases on : session.cache with _ | cache
  · refine ⟨_, fetch_disabled compiled served on, fun loses => ?_, fun _ => .refl _⟩
    obtain ⟨measure, listed⟩ := List.exists_mem_of_ne_nil _ compiled.asked
    cases loses.2.1 measure listed
  · obtain ⟨table, fetched, outcome⟩ := fetch_memory compiled served points on (holds cache on)
    rw [on] at outcome
    refine ⟨table, fetched, fun loses => ?_, fun keeps => ?_⟩
    · have bare := served.bare.mpr loses.1
      rw [if_pos ⟨bare, loses.2.1⟩] at outcome
      rw [outcome]
      exact ⟨bare, served.fits.hollow bare⟩
    · split at outcome
      · next both =>
        have noRows : (layout.table task.measures).rowCount = 0 := by
          by_contra rows
          exact keeps ⟨served.bare.mp both.1, both.2, rows⟩
        rw [outcome, served.fits.withoutRows_eq both.1 noRows]
        exact .refl _
      · exact outcome

/-- The table of a scope through a cache, against that of a run without one. -/
theorem Session.runTask_follows (backend : engine.Columnwise frame column)
    (sound : task.Sound engine reach) (apart : reach.KeysTellApart)
    (points : task.PointsDetermineRows engine)
    (source : task.scope.columns = [] → task.scope.bucketSet = none) {direct session : Session}
    (off : direct.cache = .disabled)
    (genuine : ∀ entry ∈ session.cache.entries, engine.Genuine frame column reach entry) {table : Table}
    (ran : (direct.runTask engine task).2 = .ok table) :
    ∃ follower, (session.runTask engine task).2 = .ok follower ∧
      task.scope.Follows (task.LosesRows session.cache table) table follower := by
  unfold runTask Plan.ScopeTask.finish at ran ⊢
  obtain ⟨raw, fetched, expanded⟩ := bind_eq_ok.mp ran
  have served := served_of_fetch backend sound off fetched
  rw [fetch_disabled sound.compiled served off] at fetched
  obtain rfl := Except.ok.inj fetched
  have fits := served.fits
  have holds : ∀ cache, session.cache = .memory cache →
      cache.Holds task.key (engine.layoutOf frame column task) task.measures := by
    intro cache on
    rw [on] at genuine
    exact holds_of_genuine sound apart genuine
  obtain ⟨answer, answered, loses, keeps⟩ :=
    fetch_follows sound.compiled served (points.ofServed served) holds
  have nonempty : ((engine.layoutOf frame column task).table task.measures).columns ≠ [] := by
    simpa [Layout.table] using fun _ => sound.compiled.asked
  -- Where the rows can be lost there are no buckets.
  have unexpanded (bare : task.scope.columns = []) :
      table = (engine.layoutOf frame column task).table task.measures := by
    unfold Table.expandBuckets at expanded
    rw [source bare] at expanded
    exact (Except.ok.inj expanded).symm
  have groups (none : task.scope.groupingNames = []) : task.scope.columns = [] :=
    List.map_eq_nil_iff.mp (List.append_eq_nil_iff.mp none).2
  have lengths := Table.lengths_expandBuckets (fits.lengths (List.Subset.refl _)) expanded
  have bareTable (none : task.scope.groupingNames = []) : table.groupingNames = [] := by
    rw [unexpanded (groups none), fits.groupingNames_eq, served.bare.mpr (groups none)]
    rfl
  simp only [answered, ok_bind]
  by_cases lost : task.LosesRows session.cache table
  · have lostRaw := lost
    rw [unexpanded lost.1] at lostRaw
    refine ⟨answer, ?_, bareTable, Table.nonempty_expandBuckets nonempty expanded, lengths,
      fun kept => absurd lost kept, fun _ => ⟨?_, ?_⟩⟩
    · unfold Table.expandBuckets
      rw [source lost.1]
    · unfold Scope.groupingNames
      rw [source lost.1, lost.1]
      rfl
    · rw [unexpanded lost.1]
      exact (loses lostRaw).2
  · have kept : ¬task.LosesRows session.cache
        ((engine.layoutOf frame column task).table task.measures) := by
      intro raw
      rw [← unexpanded raw.1] at raw
      exact lost raw
    obtain ⟨follower, followed, agrees⟩ := (keeps kept).expandBuckets expanded
    exact ⟨follower, followed, bareTable, Table.nonempty_expandBuckets nonempty expanded, lengths,
      fun _ => agrees, fun gone => absurd gone lost⟩

/-! ### A cache stays on or off -/

theorem QueryCache.isDisabled_eq_true {cache : QueryCache} : cache.isDisabled = true ↔ cache = .disabled := by
  cases cache <;> simp [isDisabled]

namespace Plan.ScopeTask

theorem isDisabled_complete (task : ScopeTask) (cache : QueryCache) (cached missing : List Measure)
    (answer : Table) : (task.complete cache cached missing answer).1.isDisabled = cache.isDisabled := by
  unfold complete QueryCache.merge
  cases cache
  all_goals
    simp only
    split
    · rfl
    · rfl
    · split <;> rfl

theorem isDisabled_completeRaw (task : ScopeTask) (cache : QueryCache) (cached : List Measure) :
    (task.completeRaw cache cached).1.isDisabled = cache.isDisabled := by
  unfold completeRaw
  split
  · rfl
  · rfl
  · exact task.isDisabled_complete cache _ _ _

theorem isDisabled_completeAnswer (task : ScopeTask) (cache : QueryCache) (cached missing : List Measure)
    (answer : Except QueryError Table) :
    (task.completeAnswer cache cached missing answer).1.isDisabled = cache.isDisabled := by
  cases answer with
  | error error => rfl
  | ok table => exact task.isDisabled_complete cache _ _ _

theorem isDisabled_storeAll (task : ScopeTask) (cache : QueryCache) (answer : Except QueryError Table) :
    (task.storeAll cache answer).1.isDisabled = cache.isDisabled := by
  cases answer <;> cases cache <;> rfl

end Plan.ScopeTask

theorem Session.isDisabled_settle (session : Session) (outcome : Except QueryError (Option Table)) :
    (session.settle engine task outcome).1.cache.isDisabled = session.cache.isDisabled := by
  match outcome with
  | .error error => rfl
  | .ok (some table) => rfl
  | .ok none => exact task.isDisabled_storeAll session.cache _

theorem Session.isDisabled_runTask (session : Session) :
    (session.runTask engine task).1.cache.isDisabled = session.cache.isDisabled := by
  unfold runTask fetch
  rcases task.lookup session.cache with ⟨cached, missing⟩
  simp only
  split
  · exact (isDisabled_settle _ _).trans (task.isDisabled_completeRaw _ _)
  · exact (isDisabled_settle _ _).trans (task.isDisabled_completeAnswer _ _ _ _)

/-- A cache that is switched off stays so. -/
theorem Session.runTask_disabled {session : Session} (off : session.cache = .disabled) :
    (session.runTask engine task).1.cache = .disabled := by
  rw [← QueryCache.isDisabled_eq_true] at off ⊢
  rw [isDisabled_runTask, off]

/-! ### All scopes of a query -/

/-- The table of a query of one scope, without a cache. -/
theorem Session.gather_alone {text : String} {raw table : Table} (asked : task.measures ≠ [])
    (written : engine.sql (task.statementFor task.measures) = .ok text)
    (received : engine.receive 0 (task.statementFor task.measures) = .ok raw)
    (expanded : raw.expandBuckets task.scope = .ok table) :
    Plan.gather [task] ((Session.ofCache .disabled).runTasks engine [task]).2 = .ok [(task.key, table)] := by
  have executed := Engine.execute_of_sql [] written
  rw [List.length_nil, received] at executed
  have fetched : ((Session.ofCache .disabled).fetch engine task).2 = .ok raw :=
    fetch_of_answer (QueryCache.lacks_disabled task.key) asked executed rfl
  have ran : ((Session.ofCache .disabled).runTask engine task).2 = .ok table :=
    bind_eq_ok.mpr ⟨raw, fetched, expanded⟩
  unfold runTasks Plan.gather
  exact bind_eq_ok.mpr ⟨table, ran, rfl⟩

/-- The tables of the scopes of a query through a cache, against those of a run without one. -/
theorem Session.runTasks_follow (backend : engine.Columnwise frame column) (apart : reach.KeysTellApart)
    {tasks : List Plan.ScopeTask} (sound : ∀ task ∈ tasks, task.Sound engine reach)
    (points : ∀ task ∈ tasks, task.PointsDetermineRows engine)
    (source : ∀ task ∈ tasks, task.scope.columns = [] → task.scope.bucketSet = none)
    {direct session : Session} (off : direct.cache = .disabled)
    (genuine : ∀ entry ∈ session.cache.entries, engine.Genuine frame column reach entry)
    {tables : ScopeTables}
    (ran : Plan.gather tasks (direct.runTasks engine tasks).2 = .ok tables) :
    ∃ followers, Plan.gather tasks (session.runTasks engine tasks).2 = .ok followers ∧
      (∀ key ∈ tasks.map Plan.ScopeTask.key, ∃ task ∈ tasks, task.key = key ∧ ∃ lost table follower,
        tables.lookup key = some table ∧ followers.lookup key = some follower ∧
          task.scope.Follows lost table follower) ∧
      ∀ first ∈ tasks.head?, ∃ table follower,
        tables.lookup first.key = some table ∧ followers.lookup first.key = some follower ∧
          first.scope.Follows (first.LosesRows session.cache table) table follower := by
  induction tasks generalizing direct session tables with
  | nil =>
    obtain rfl := Except.ok.inj ran
    exact ⟨[], rfl, by simp, by simp⟩
  | cons task rest ih =>
    unfold runTasks Plan.gather at ran
    obtain ⟨table, table_eq, ran⟩ := bind_eq_ok.mp ran
    obtain ⟨others, others_eq, ran⟩ := bind_eq_ok.mp ran
    obtain rfl := Except.ok.inj ran
    have taskSound := sound task List.mem_cons_self
    obtain ⟨follower, followed, follows⟩ := runTask_follows backend taskSound apart
      (points task List.mem_cons_self) (source task List.mem_cons_self) off genuine table_eq
    obtain ⟨followers, followers_eq, each, -⟩ := ih
      (fun other later => sound other (List.mem_cons_of_mem _ later))
      (fun other later => points other (List.mem_cons_of_mem _ later))
      (fun other later => source other (List.mem_cons_of_mem _ later))
      (runTask_disabled off) (runTask_genuine backend taskSound genuine) others_eq
    refine ⟨(task.key, follower) :: followers, ?_, fun key listed => ?_, fun first head => ?_⟩
    · unfold runTasks Plan.gather
      simp only [followed, followers_eq, ok_bind]
      rfl
    · by_cases here : key = task.key
      · exact ⟨task, List.mem_cons_self, here.symm, _, table, follower, by simp [here], by simp [here],
          follows⟩
      · rcases List.mem_cons.mp listed with same | later
        · exact absurd same here
        · obtain ⟨other, member, same, lost, otherTable, otherFollower, found, otherFound, rest⟩ :=
            each key later
          refine ⟨other, List.mem_cons_of_mem _ member, same, lost, otherTable, otherFollower, ?_, ?_,
            rest⟩
          · rw [List.lookup_cons, beq_eq_false_iff_ne.mpr here]
            exact found
          · rw [List.lookup_cons, beq_eq_false_iff_ne.mpr here]
            exact otherFound
    · obtain rfl : task = first := by simpa using head
      exact ⟨table, follower, by simp, by simp, follows⟩

end CubeQuery
