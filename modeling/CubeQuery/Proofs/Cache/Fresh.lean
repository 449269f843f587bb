import CubeQuery.Proofs.Cache.Transparency
import CubeQuery.Proofs.Plan.Exactness

/-! Runs of a query that finds nothing of its own in the cache. Each scope is asked of the database with
all of its measures, and what is stored on the way belongs to other scopes than those that follow. -/

namespace CubeQuery

open Steps

variable {engine : Engine} {task : Plan.ScopeTask} {session : Session} {table : Table}

/-- Nothing of the scopes of a query is cached for it. -/
def Session.Lacks (session : Session) (query : Query) : Prop :=
  ∀ plan, Plan.build query = .ok plan → ∀ key ∈ plan.scopeKeys, (session.cacheFor query).Lacks key

theorem Session.lacks_of_disabled (off : session.cache = .disabled) (query : Query) :
    session.Lacks query := by
  intro plan _ key _
  rw [cacheFor_disabled off]
  exact QueryCache.lacks_disabled key

/-- The table that a database has for a task, with its buckets. -/
def Plan.ScopeTask.Gives (engine : Engine) (task : Plan.ScopeTask) (table : Table) : Prop :=
  ∃ number raw, engine.receive number (task.statementFor task.measures) = .ok raw ∧
    raw.expandBuckets task.scope = .ok table

/-- The tables of some tasks, as the database has them. -/
structure ScopeTables.Give (engine : Engine) (tasks : List Plan.ScopeTask) (tables : ScopeTables) :
    Prop where
  each : ∀ task ∈ tasks, ∃ table, tables.lookup task.key = some table ∧ task.Gives engine table
  only : ∀ {key table}, tables.lookup key = some table → ∃ task ∈ tasks, task.key = key

namespace Session

theorem received_of_fetch (lacks : session.cache.Lacks task.key) (asked : task.measures ≠ [])
    (fetched : (session.fetch engine task).2 = .ok table) :
    engine.receive session.sent.length (task.statementFor task.measures) = .ok table := by
  rw [fetch_of_lacks lacks asked] at fetched
  unfold refetch send Plan.ScopeTask.storeAll at fetched
  rcases executed : engine.execute session.sent (task.statementFor task.measures) with ⟨sent, answer⟩
  rw [executed] at fetched
  cases answer with
  | error error => cases fetched
  | ok answer =>
    rw [Engine.receive_of_execute executed]
    dsimp only at fetched
    cases outcome : (session.cache.store task.key answer task.measures).2 with
    | error error =>
      rw [outcome] at fetched
      cases fetched
    | ok =>
      rw [outcome] at fetched
      exact fetched

/-- Tasks store entries of their own scopes. -/
theorem lacks_fetch {key : ScopeKey} (other : key ≠ task.key) (lacks : session.cache.Lacks key) :
    (session.fetch engine task).1.cache.Lacks key := by
  have own (measure : Measure) (table : Table) :
      (⟨.of task.key measure, table⟩ : CacheEntry).key.scope ≠ key := other.symm
  have settled {asked : Session} (before : asked.cache.Lacks key)
      (outcome : Except QueryError (Option Table)) : (asked.settle engine task outcome).1.cache.Lacks key := by
    match outcome with
    | .error error => exact before
    | .ok (some table) => exact before
    | .ok none =>
      unfold settle refetch send
      rcases engine.execute asked.sent (task.statementFor task.measures) with ⟨sent, answer⟩
      cases answer with
      | error error => exact before
      | ok table => exact QueryCache.forall_store before fun measure _ table _ => own measure table
  unfold fetch
  rcases task.lookup session.cache with ⟨cached, missing⟩
  simp only
  split
  · refine settled ?_ _
    exact Plan.ScopeTask.forall_completeRaw lacks
  · unfold send
    rcases engine.execute session.sent (task.statementFor missing) with ⟨sent, answer⟩
    refine settled ?_ _
    cases answer with
    | error error => exact lacks
    | ok table => exact Plan.ScopeTask.forall_complete lacks fun measure _ _ _ table _ => own measure table

/-- What a task stores leaves nothing of the scopes that follow. -/
theorem lacks_rest {first : Plan.ScopeTask} {rest : List Plan.ScopeTask}
    (new : first.key ∉ rest.map Plan.ScopeTask.key) (lacks : ∀ task ∈ rest, session.cache.Lacks task.key) :
    ∀ task ∈ rest, (session.runTask engine first).1.cache.Lacks task.key := by
  intro task later
  refine lacks_fetch (fun same => new ?_) (lacks task later)
  exact same ▸ List.mem_map_of_mem later

/-- The step of a run. -/
theorem gives_of_runTask (lacks : session.cache.Lacks task.key) (asked : task.measures ≠ [])
    (ran : (session.runTask engine task).2 = .ok table) : task.Gives engine table := by
  unfold runTask Plan.ScopeTask.finish at ran
  obtain ⟨raw, fetched, expanded⟩ := bind_eq_ok.mp ran
  exact ⟨_, raw, received_of_fetch lacks asked fetched, expanded⟩

/-- The run. -/
theorem give_of_runTasks {tasks : List Plan.ScopeTask} (asked : ∀ task ∈ tasks, task.measures ≠ [])
    (distinct : (tasks.map Plan.ScopeTask.key).Nodup)
    (lacks : ∀ task ∈ tasks, session.cache.Lacks task.key) {tables : ScopeTables}
    (ran : Plan.gather tasks (session.runTasks engine tasks).2 = .ok tables) :
    tables.Give engine tasks := by
  induction tasks generalizing session tables with
  | nil =>
    obtain rfl := Except.ok.inj ran
    exact ⟨nofun, nofun⟩
  | cons first rest ih =>
    obtain ⟨new, distinctRest⟩ := List.nodup_cons.mp distinct
    unfold runTasks Plan.gather at ran
    obtain ⟨table, table_eq, ran⟩ := bind_eq_ok.mp ran
    obtain ⟨others, others_eq, ran⟩ := bind_eq_ok.mp ran
    obtain rfl := Except.ok.inj ran
    have elsewhere {task : Plan.ScopeTask} (later : task ∈ rest) : task.key ≠ first.key := by
      intro same
      exact new (same ▸ List.mem_map_of_mem later)
    have given := ih (fun task later => asked task (List.mem_cons_of_mem _ later)) distinctRest
      (lacks_rest new fun task later => lacks task (List.mem_cons_of_mem _ later)) others_eq
    constructor
    · intro task listed
      rcases List.mem_cons.mp listed with rfl | later
      · exact ⟨table, by simp, gives_of_runTask (lacks task List.mem_cons_self)
          (asked task List.mem_cons_self) table_eq⟩
      · obtain ⟨other, found, gives⟩ := given.each task later
        refine ⟨other, ?_, gives⟩
        rw [List.lookup_cons, beq_eq_false_iff_ne.mpr (elsewhere later)]
        exact found
    · intro key other found
      rw [List.lookup_cons] at found
      by_cases here : key = first.key
      · exact ⟨first, List.mem_cons_self, here.symm⟩
      · rw [beq_eq_false_iff_ne.mpr here] at found
        obtain ⟨task, later, same⟩ := given.only found
        exact ⟨task, List.mem_cons_of_mem _ later, same⟩

/-- The result of a query that finds nothing of its own cached, from the tables of its scopes. -/
theorem execute_of_lacks {query : Query} (lacks : session.Lacks query)
    (executed : (session.execute engine query).2 = .ok table) :
    ∃ planned tables, PlannedQuery.of engine query = .ok planned ∧ tables.Give engine planned.tasks ∧
      planned.plan.result query.orders tables = .ok table := by
  obtain ⟨planned, made⟩ := execute_eq_ok executed
  obtain ⟨query_eq, planBuilt, tasks_eq⟩ := PlannedQuery.of_eq_ok made
  obtain ⟨keys_eq, each⟩ := Plan.tasks_spec (Plan.wellBuilt_of_build planBuilt) tasks_eq
  rw [execute_eq_result made] at executed
  unfold PlannedQuery.result at executed
  obtain ⟨tables, gathered, executed⟩ := bind_eq_ok.mp executed
  rw [query_eq] at executed
  refine ⟨planned, tables, made, ?_, executed⟩
  refine give_of_runTasks (fun task listed => (each task listed).1.asked) ?_ (fun task listed => ?_) gathered
  · rw [keys_eq]
    exact (Plan.tidy_of_build planBuilt).keys
  · exact lacks _ planBuilt task.key (keys_eq ▸ List.mem_map_of_mem listed)

end Session

end CubeQuery
