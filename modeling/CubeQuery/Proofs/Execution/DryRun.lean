import CubeQuery.Proofs.Cache.Fresh

/-! The statements of a query against those that it sends. What cannot be planned, compiled or written
is rejected before anything is sent; the rest is sent as it is written, one statement for each scope, as
long as nothing is cached. -/

namespace CubeQuery

open Steps

variable {engine : Engine} {query : Query} {planned : PlannedQuery} {task : Plan.ScopeTask}
  {session : Session}

/-- The statement of a scope for all that the database computes in it, written out. -/
def Plan.statementText (engine : Engine) (plan : Plan) (key : ScopeKey) : Except QueryError String := do
  let task ← plan.task engine.datastore key
  engine.sql task.statement

/-- The query has no plan, or one with a scope whose statement cannot be compiled or written. -/
def Query.Rejected (engine : Engine) (query : Query) : Prop :=
  ∀ plan, Plan.build query = .ok plan →
    ∃ key ∈ plan.scopeKeys, ∃ error, plan.statementText engine key = .error error

/-! ### Rejection -/

theorem Engine.statements_eq_ok {texts : List String} :
    engine.statements query = .ok texts ↔
      ∃ plan, Plan.build query = .ok plan ∧ plan.scopeKeys.mapM (plan.statementText engine) = .ok texts := by
  unfold statements Plan.tasks
  rw [bind_eq_ok]
  apply exists_congr
  intro plan
  exact and_congr_right fun _ => mapM_bind_mapM_eq_ok

/-- A query is rejected exactly if its statements cannot be written. -/
theorem Query.rejected_iff : query.Rejected engine ↔ ∃ error, engine.statements query = .error error := by
  rw [exists_error_iff]
  constructor
  · intro rejected texts written
    obtain ⟨plan, built, each⟩ := Engine.statements_eq_ok.mp written
    exact exists_error_iff.mp (exists_error_of_mapM.mpr (rejected plan built)) texts each
  · intro unwritten plan built
    apply exists_error_of_mapM.mp
    apply exists_error_iff.mpr
    intro texts each
    exact unwritten texts (Engine.statements_eq_ok.mpr ⟨plan, built, each⟩)

/-- A query fails to be planned as its statements fail to be written. -/
theorem PlannedQuery.of_eq_error {error : QueryError} :
    PlannedQuery.of engine query = .error error ↔ engine.statements query = .error error := by
  unfold PlannedQuery.of Engine.tasks Engine.statements
  cases Plan.build query with
  | error => simp
  | ok plan =>
    rw [ok_bind, ok_bind]
    cases plan.tasks engine.datastore with
    | error => simp
    | ok tasks =>
      simp only [ok_bind, forM_eq_mapM]
      cases tasks.mapM fun task => engine.sql task.statement <;> simp

theorem PlannedQuery.statements_eq (made : PlannedQuery.of engine query = .ok planned) :
    engine.statements query = planned.tasks.mapM fun task => engine.sql task.statement := by
  obtain ⟨-, planBuilt, tasks_eq⟩ := of_eq_ok made
  unfold Engine.tasks at tasks_eq
  obtain ⟨tasks, compiled, tasks_eq⟩ := bind_eq_ok.mp tasks_eq
  obtain ⟨_, -, tasks_eq⟩ := bind_eq_ok.mp tasks_eq
  obtain rfl := Except.ok.inj tasks_eq
  unfold Engine.statements
  rw [planBuilt, ok_bind, compiled, ok_bind]

/-! ### What is sent -/

theorem Plan.ScopeTask.Compiled.statementFor_measures (compiled : task.Compiled engine) :
    task.statementFor task.measures = task.statement := by
  calc task.statementFor task.measures
      = task.statementFor (task.measures.filter fun _ => true) := by rw [filter_every]
    _ = task.statement.withMeasures (task.measures.map task.typed) := by
        rw [compiled.statementFor_eq, filter_every]
    _ = task.statement := by rw [← compiled.typed_spec.1, Statement.withMeasures_self]

namespace Session

/-- The step of a run: a scope that is not cached sends its statement, whatever is answered. -/
theorem sent_runTask (compiled : task.Compiled engine) (lacks : session.cache.Lacks task.key)
    {text : String} (written : engine.sql task.statement = .ok text) :
    (session.runTask engine task).1.sent = session.sent ++ [text] := by
  calc (session.runTask engine task).1.sent
      = (session.refetch engine task).1.sent := by
        unfold runTask
        rw [fetch_of_lacks lacks compiled.asked]
    _ = (engine.execute session.sent task.statement).1 := by
        unfold refetch send
        rw [compiled.statementFor_measures]
    _ = session.sent ++ [text] := by rw [Engine.execute_of_sql _ written]

/-- The run. What the tasks store belongs to other scopes than those that follow. -/
theorem sent_runTasks {tasks : List Plan.ScopeTask} (compiled : ∀ task ∈ tasks, task.Compiled engine)
    (distinct : (tasks.map Plan.ScopeTask.key).Nodup)
    (lacks : ∀ task ∈ tasks, session.cache.Lacks task.key) {texts : List String}
    (written : tasks.mapM (fun task => engine.sql task.statement) = .ok texts) :
    (session.runTasks engine tasks).1.sent = session.sent ++ texts := by
  induction tasks generalizing session texts with
  | nil =>
    obtain rfl := Except.ok.inj written
    exact (List.append_nil _).symm
  | cons first rest ih =>
    obtain ⟨new, distinctRest⟩ := List.nodup_cons.mp distinct
    rw [List.mapM_cons] at written
    obtain ⟨text, firstWritten, written⟩ := bind_eq_ok.mp written
    obtain ⟨others, restWritten, written⟩ := bind_eq_ok.mp written
    obtain rfl := Except.ok.inj written
    have lacksRest : ∀ task ∈ rest, (session.runTask engine first).1.cache.Lacks task.key := by
      intro task later
      apply lacks_fetch
      · intro same
        exact new (same ▸ List.mem_map_of_mem later)
      · exact lacks task (List.mem_cons_of_mem _ later)
    calc (session.runTasks engine (first :: rest)).1.sent
        = ((session.runTask engine first).1.runTasks engine rest).1.sent := rfl
      _ = (session.runTask engine first).1.sent ++ others :=
          ih (fun task later => compiled task (List.mem_cons_of_mem _ later)) distinctRest lacksRest
            restWritten
      _ = session.sent ++ [text] ++ others := by
          rw [sent_runTask (compiled first List.mem_cons_self) (lacks first List.mem_cons_self)
            firstWritten]
      _ = session.sent ++ text :: others := List.append_assoc ..

theorem sent_execute (made : PlannedQuery.of engine query = .ok planned) :
    (session.execute engine query).1.sent =
      ((Session.mk (session.cacheFor query) session.sent).runTasks engine planned.tasks).1.sent := by
  obtain ⟨query_eq, -⟩ := PlannedQuery.of_eq_ok made
  unfold execute runPlanned PlannedQuery.usesCache cacheFor
  rw [made]
  simp only [query_eq]
  cases query.cacheAction <;> rfl

/-- A query that finds nothing of its own in the cache sends its statements. -/
theorem sent_execute_of_lacks (lacks : session.Lacks query) {texts : List String}
    (written : engine.statements query = .ok texts) :
    (session.execute engine query).1.sent = session.sent ++ texts := by
  cases made : PlannedQuery.of engine query with
  | error error =>
    rw [PlannedQuery.of_eq_error.mp made] at written
    cases written
  | ok planned =>
    obtain ⟨-, planBuilt, tasks_eq⟩ := PlannedQuery.of_eq_ok made
    obtain ⟨keys_eq, each⟩ := Plan.tasks_spec (Plan.wellBuilt_of_build planBuilt) tasks_eq
    rw [sent_execute made]
    apply sent_runTasks (fun task listed => (each task listed).1)
    · rw [keys_eq]
      exact (Plan.tidy_of_build planBuilt).keys
    · intro task listed
      exact lacks _ planBuilt task.key (keys_eq ▸ List.mem_map_of_mem listed)
    · rw [← PlannedQuery.statements_eq made, written]

/-- A rejected query fails with the error of its statements: nothing is sent, and the cache stays as it
is with its counters. Every other query sends its statements as they are written, one for each scope in
the order of discovery, if nothing is cached or the cache is not used. -/
theorem sends_statements_or_nothing (engine : Engine) (session : Session) (query : Query)
    (keeps : query.cacheAction ≠ .invalidate) :
    (query.Rejected engine → ∃ error, engine.statements query = .error error ∧
      session.execute engine query = (session, .error error)) ∧
    (¬query.Rejected engine → (session.cacheFor query).entries = [] →
      ∃ plan texts, Plan.build query = .ok plan ∧ engine.statements query = .ok texts ∧
        List.Forall₂ (fun key text => plan.statementText engine key = .ok text) plan.scopeKeys texts ∧
        (session.execute engine query).1.sent = session.sent ++ texts) := by
  constructor
  · intro rejected
    obtain ⟨error, unwritten⟩ := Query.rejected_iff.mp rejected
    refine ⟨error, unwritten, ?_⟩
    have prepared : session.prepare query.cacheAction = session := by
      cases action : query.cacheAction with
      | use => rfl
      | notUse => rfl
      | invalidate => exact absurd action keeps
    unfold execute
    rw [PlannedQuery.of_eq_error.mpr unwritten, prepared]
  · intro accepted empty
    rw [Query.rejected_iff] at accepted
    cases written : engine.statements query with
    | error error => exact absurd ⟨error, written⟩ accepted
    | ok texts =>
      obtain ⟨plan, built, each⟩ := Engine.statements_eq_ok.mp written
      refine ⟨plan, texts, built, rfl, mapM_eq_ok.mp each, ?_⟩
      apply sent_execute_of_lacks _ written
      intro _ _ key _ entry listed
      rw [empty] at listed
      cases listed

theorem totalQuery_statements : pricesEngine.statements totalQuery =
    .ok ["select sum(price) as total from sales"] := by
  have written : pricesEngine.sql totalStatement = .ok "select sum(price) as total from sales" := by
    decide +kernel
  rw [PlannedQuery.statements_eq totalQuery_planned, List.mapM_cons, List.mapM_nil]
  exact bind_eq_ok.mpr ⟨_, written, rfl⟩

/-- A total is sent as it is written, and a query over nothing is not sent. -/
theorem total_sent_empty_not :
    let session := Session.ofCache (.memory (.ofCapacity 100))
    (session.execute pricesEngine totalQuery).1.sent =
        ["select sum(price) as total from sales"] ∧
      ∃ error, session.execute pricesEngine Query.empty = (session, .error error) := by
  intro session
  constructor
  · have accepted : ¬totalQuery.Rejected pricesEngine := by
      rw [Query.rejected_iff, totalQuery_statements]
      exact nofun
    obtain ⟨plan, texts, -, written, -, sent⟩ :=
      (sends_statements_or_nothing pricesEngine session totalQuery nofun).2 accepted rfl
    obtain rfl := Except.ok.inj (totalQuery_statements.symm.trans written)
    exact sent
  · have rejected : Query.empty.Rejected pricesEngine := nofun
    obtain ⟨error, -, executed⟩ :=
      (sends_statements_or_nothing pricesEngine session Query.empty nofun).1 rejected
    exact ⟨error, executed⟩

end Session

end CubeQuery
