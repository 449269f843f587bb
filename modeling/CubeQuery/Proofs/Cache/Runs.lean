import CubeQuery.Proofs.Cache.Hits
import CubeQuery.Proofs.Execution.Results

/-! Runs of queries through one cache. Whatever a run does, and whether its queries succeed or not,
it leaves genuine entries. -/

namespace CubeQuery

open Steps

/-- The scopes that the plans of queries involve, and the measures that their tasks ask for. -/
def Reach.ofQueries (queries : List Query) : Reach where
  scopes scope := ∃ query ∈ queries, ∃ plan, Plan.build query = .ok plan ∧ plan.Involves scope
  measures measure := ∃ query ∈ queries, ∃ plan, Plan.build query = .ok plan ∧
    ∃ key ∈ plan.scopeKeys, ∃ measures, plan.databaseMeasures key = .ok measures ∧ measure ∈ measures

/-- No column that a query asks the database for is named like a marker of its totals. -/
def Query.MarkersApart (engine : Engine) (query : Query) : Prop :=
  ∀ planned, PlannedQuery.of engine query = .ok planned → ∀ task ∈ planned.tasks,
    task.statement.MarkersApart engine.dialect.groupingMarkers

/-- The session after queries, one after another. -/
def Session.after (engine : Engine) (session : Session) (queries : List Query) : Session :=
  queries.foldl (fun session query => (session.execute engine query).1) session

theorem PlannedQuery.of_eq_ok {engine : Engine} {query : Query} {planned : PlannedQuery}
    (made : PlannedQuery.of engine query = .ok planned) : planned.query = query ∧
      Plan.build query = .ok planned.plan ∧ engine.tasks planned.plan = .ok planned.tasks := by
  unfold PlannedQuery.of at made
  obtain ⟨plan, built, made⟩ := bind_eq_ok.mp made
  obtain ⟨tasks, tasks_eq, made⟩ := bind_eq_ok.mp made
  obtain rfl := Except.ok.inj made
  exact ⟨rfl, built, tasks_eq⟩

variable {engine : Engine} {frame : Statement → List Column} {column : Statement → TypedMeasure → Column}
  {reach : Reach} {queries : List Query} {query : Query} {planned : PlannedQuery}

/-- The tasks of a query of the run. -/
theorem PlannedQuery.tasks_sound (listed : query ∈ queries) (apart : query.MarkersApart engine)
    (made : PlannedQuery.of engine query = .ok planned) :
    ∀ task ∈ planned.tasks, task.Sound engine (.ofQueries queries) := by
  intro task member
  obtain ⟨-, built, tasks_eq⟩ := of_eq_ok made
  obtain ⟨keys_eq, each⟩ := Plan.tasks_spec (Plan.wellBuilt_of_build built) tasks_eq
  obtain ⟨compiled, measures_eq, found⟩ := each task member
  exact ⟨compiled, apart planned made task member,
    ⟨query, listed, planned.plan, built, Plan.involves_of_lookup found⟩,
    fun measure asked => ⟨query, listed, planned.plan, built, task.key,
      keys_eq ▸ List.mem_map_of_mem member, task.measures, measures_eq, asked⟩⟩

namespace Session

theorem runTask_genuine (backend : engine.Columnwise frame column) {task : Plan.ScopeTask}
    (sound : task.Sound engine reach) {session : Session}
    (before : ∀ entry ∈ session.cache.entries, engine.Genuine frame column reach entry) :
    ∀ entry ∈ (session.runTask engine task).1.cache.entries, engine.Genuine frame column reach entry :=
  fetch_genuine backend sound before

theorem runTasks_genuine (backend : engine.Columnwise frame column) {tasks : List Plan.ScopeTask}
    (sound : ∀ task ∈ tasks, task.Sound engine reach) {session : Session}
    (before : ∀ entry ∈ session.cache.entries, engine.Genuine frame column reach entry) :
    ∀ entry ∈ (session.runTasks engine tasks).1.cache.entries,
      engine.Genuine frame column reach entry := by
  induction tasks generalizing session with
  | nil => exact before
  | cons task rest ih =>
    exact ih (fun other later => sound other (List.mem_cons_of_mem _ later))
      (runTask_genuine backend (sound task List.mem_cons_self) before)

theorem prepare_genuine {session : Session}
    (before : ∀ entry ∈ session.cache.entries, engine.Genuine frame column reach entry)
    (action : CacheAction) :
    ∀ entry ∈ (session.prepare action).cache.entries, engine.Genuine frame column reach entry := by
  obtain ⟨cache, sent⟩ := session
  cases action with
  | use => exact before
  | notUse => exact before
  | invalidate =>
    cases cache with
    | disabled => exact before
    | memory cache => exact fun _ listed => absurd listed List.not_mem_nil

/-- The step of a run. -/
theorem execute_genuine (backend : engine.Columnwise frame column) (listed : query ∈ queries)
    (apart : query.MarkersApart engine) {session : Session}
    (before : ∀ entry ∈ session.cache.entries, engine.Genuine frame column (.ofQueries queries) entry) :
    ∀ entry ∈ (session.execute engine query).1.cache.entries,
      engine.Genuine frame column (.ofQueries queries) entry := by
  have prepared := prepare_genuine before query.cacheAction
  unfold execute
  cases made : PlannedQuery.of engine query with
  | error error => exact prepared
  | ok planned =>
    have sound := PlannedQuery.tasks_sound listed apart made
    simp only
    unfold runPlanned
    split
    · exact runTasks_genuine backend sound prepared
    · exact prepared

theorem after_genuine (backend : engine.Columnwise frame column) (earlier : List Query)
    (among : earlier ⊆ queries) (apart : ∀ query ∈ queries, query.MarkersApart engine)
    {session : Session}
    (before : ∀ entry ∈ session.cache.entries, engine.Genuine frame column (.ofQueries queries) entry) :
    ∀ entry ∈ (session.after engine earlier).cache.entries,
      engine.Genuine frame column (.ofQueries queries) entry := by
  induction earlier generalizing session with
  | nil => exact before
  | cons query rest ih =>
    obtain ⟨listed, later⟩ := List.cons_subset.mp among
    exact ih later (execute_genuine backend listed (apart query listed) before)

end Session

end CubeQuery
