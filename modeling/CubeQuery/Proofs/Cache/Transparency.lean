import CubeQuery.Proofs.Cache.Scopes
import CubeQuery.Proofs.Memory.Lines
import Mathlib.Data.List.Permutation

/-! What a query gives through a cache, against what it gives without one: the same table, unless it
groups by nothing and all that it asks of the database for itself is cached. Then its rows are lost. -/

namespace CubeQuery

open Steps

variable {engine : Engine} {frame : Statement → List Column} {column : Statement → TypedMeasure → Column}
  {reach : Reach}

/-! ### Queries -/

/-- What a query finds cached. -/
def Session.cacheFor (session : Session) (query : Query) : QueryCache :=
  match query.cacheAction with
  | .use => session.cache
  | .notUse => .disabled
  | .invalidate => session.cache.clear

/-- What the database computes for the query's own scope. -/
def Query.databaseMeasures (query : Query) : Except QueryError (List Measure) := do
  let plan ← Plan.build query
  plan.databaseMeasures plan.root

/-- A query that groups by nothing loses the rows of its result if all that the database computes for
its own scope is cached. -/
def Session.LosesRows (session : Session) (query : Query) (result : Table) : Prop :=
  query.columns = [] ∧ result.rowCount ≠ 0 ∧ ∃ measures, query.databaseMeasures = .ok measures ∧
    ∀ measure ∈ measures, (session.cacheFor query).contains (Scope.ofQuery query).key measure = true

/-- No two rows of a scope of the query have one point. -/
def Query.PointsApart (engine : Engine) (query : Query) : Prop :=
  ∀ planned, PlannedQuery.of engine query = .ok planned → ∀ task ∈ planned.tasks, task.PointsApart engine

/-- Rows of one point are the same in each scope of the query. -/
def Query.PointsDetermineRows (engine : Engine) (query : Query) : Prop :=
  ∀ planned, PlannedQuery.of engine query = .ok planned →
    ∀ task ∈ planned.tasks, task.PointsDetermineRows engine

theorem Query.PointsApart.determine {query : Query} (apart : query.PointsApart engine) :
    query.PointsDetermineRows engine :=
  fun planned made task listed => Plan.ScopeTask.PointsApart.determine (apart planned made task listed)

theorem Session.execute_eq_result {session : Session} {query : Query} {planned : PlannedQuery}
    (made : PlannedQuery.of engine query = .ok planned) : (session.execute engine query).2 =
      planned.result ((Session.mk (session.cacheFor query) session.sent).runTasks engine
        planned.tasks).2 := by
  obtain ⟨query_eq, -⟩ := PlannedQuery.of_eq_ok made
  obtain ⟨cache, sent⟩ := session
  unfold execute runPlanned PlannedQuery.usesCache cacheFor
  rw [made]
  simp only [query_eq]
  cases query.cacheAction <;> rfl

/-- A query that uses the cache leaves it as its tasks do. -/
theorem Session.execute_of_use {session : Session} {query : Query} {planned : PlannedQuery}
    (made : PlannedQuery.of engine query = .ok planned) (use : query.cacheAction = .use) :
    (session.execute engine query).1 = (session.runTasks engine planned.tasks).1 := by
  obtain ⟨query_eq, -⟩ := PlannedQuery.of_eq_ok made
  unfold execute runPlanned PlannedQuery.usesCache prepare
  rw [made]
  simp only [query_eq, use]
  rfl

theorem Session.execute_eq_ok {session : Session} {query : Query} {table : Table}
    (executed : (session.execute engine query).2 = .ok table) :
    ∃ planned, PlannedQuery.of engine query = .ok planned := by
  unfold execute at executed
  cases made : PlannedQuery.of engine query with
  | error error =>
    rw [made] at executed
    cases executed
  | ok planned => exact ⟨planned, rfl⟩

theorem Plan.WellBuilt.bucketSet_eq_none {plan : Plan} {query : Query} (built : plan.WellBuilt query)
    (unplaced : query.columns = [] → query.bucketSet = none) {key : ScopeKey} {scope : Scope}
    (found : plan.discovery.scopes.lookup key = some scope) (bare : scope.columns = []) :
    scope.bucketSet = none := by
  obtain ⟨derivation, -, rfl⟩ := built.derived found
  exact unplaced (List.append_eq_nil_iff.mp bare).1

theorem Session.cacheFor_disabled {session : Session} (off : session.cache = .disabled) (query : Query) :
    session.cacheFor query = .disabled := by
  unfold cacheFor
  rw [off]
  cases query.cacheAction <;> rfl

theorem Session.cacheFor_genuine {session : Session}
    (genuine : ∀ entry ∈ session.cache.entries, engine.Genuine frame column reach entry) (query : Query) :
    ∀ entry ∈ (session.cacheFor query).entries, engine.Genuine frame column reach entry := by
  unfold cacheFor
  cases query.cacheAction with
  | use => exact genuine
  | notUse => exact fun _ listed => absurd listed List.not_mem_nil
  | invalidate => exact prepare_genuine genuine .invalidate

/-! ### Lost rows -/

/-- What a scope gives through a cache differs from what it gives without one. -/
def ScopeTables.Differ (tables followers : ScopeTables) (key : ScopeKey) : Prop :=
  ∃ table follower, tables.lookup key = some table ∧ followers.lookup key = some follower ∧
    ¬follower.Agrees table

theorem ScopeTables.differ_iff {tables followers : ScopeTables} {key : ScopeKey} {table follower : Table}
    (found : tables.lookup key = some table) (followerFound : followers.lookup key = some follower) :
    tables.Differ followers key ↔ ¬follower.Agrees table := by
  constructor
  · rintro ⟨other, otherFollower, otherFound, otherFollowerFound, differs⟩
    obtain rfl := Option.some.inj (found.symm.trans otherFound)
    obtain rfl := Option.some.inj (followerFound.symm.trans otherFollowerFound)
    exact differs
  · exact fun differs => ⟨table, follower, found, followerFound, differs⟩

theorem Plan.ScopeTask.losesRows_iff {task : Plan.ScopeTask} {cache : QueryCache} {table follower : Table}
    (follows : task.scope.Follows (task.LosesRows cache table) table follower) :
    ¬follower.Agrees table ↔ task.LosesRows cache table := by
  constructor
  · intro differs
    by_contra keeps
    exact differs (follows.agrees keeps)
  · intro loses agrees
    have rows := agrees.rows
    rw [(follows.hollow loses).2.rowCount_eq] at rows
    exact loses.2.2 rows.symm

/-- The rows of a result are lost with those of the query's own scope, if it has as many. -/
theorem Session.losesRows_iff {session : Session} {query : Query} {plan : Plan}
    (planBuilt : Plan.build query = .ok plan) {task : Plan.ScopeTask} (root : task.key = plan.root)
    (own : task.scope = .ofQuery query) (measures : plan.databaseMeasures task.key = .ok task.measures)
    {table rootTable : Table} (rows : table.rowCount = rootTable.rowCount) :
    session.LosesRows query table ↔ task.LosesRows (session.cacheFor query) rootTable := by
  have key_eq : task.key = (Scope.ofQuery query).key := root.trans (Plan.wellBuilt_of_build planBuilt).root
  have asked : query.databaseMeasures = .ok task.measures := by
    rw [root] at measures
    exact bind_eq_ok.mpr ⟨plan, planBuilt, measures⟩
  have cached : (∃ measures, query.databaseMeasures = .ok measures ∧ ∀ measure ∈ measures,
      (session.cacheFor query).contains (Scope.ofQuery query).key measure = true) ↔
        task.Cached (session.cacheFor query) := by
    unfold Plan.ScopeTask.Cached
    rw [key_eq]
    constructor
    · rintro ⟨others, also, all⟩
      obtain rfl := Except.ok.inj (asked.symm.trans also)
      exact all
    · exact fun all => ⟨task.measures, asked, all⟩
  unfold LosesRows Plan.ScopeTask.LosesRows
  rw [cached, own, rows]
  exact and_congr_right fun _ => and_comm

/-- A query that succeeds without a cache, executed with whatever entries earlier queries left. -/
theorem Session.execute_follows (backend : engine.Columnwise frame column) {queries : List Query}
    {query : Query} (listed : query ∈ queries) (apart : (Reach.ofQueries queries).KeysTellApart)
    (markers : query.MarkersApart engine) (points : query.PointsDetermineRows engine)
    (unplaced : query.columns = [] → query.bucketSet = none)
    {direct session : Session} (off : direct.cache = .disabled)
    (genuine : ∀ entry ∈ session.cache.entries,
      engine.Genuine frame column (.ofQueries queries) entry) {table : Table}
    (ran : (direct.execute engine query).2 = .ok table) :
    (¬session.LosesRows query table → (session.execute engine query).2 = .ok table) ∧
      (session.LosesRows query table →
        ∃ lost, (session.execute engine query).2 = .ok lost ∧ lost.rowCount = 0) := by
  obtain ⟨planned, made⟩ := execute_eq_ok ran
  obtain ⟨-, planBuilt, tasks_eq⟩ := PlannedQuery.of_eq_ok made
  have built := Plan.wellBuilt_of_build planBuilt
  have each := (Plan.tasks_spec built tasks_eq).2
  rw [execute_eq_result made, cacheFor_disabled off] at ran
  rw [execute_eq_result made]
  unfold PlannedQuery.result at ran ⊢
  obtain ⟨tables, gathered, ran⟩ := bind_eq_ok.mp ran
  have cached : ∀ entry ∈ (Session.mk (session.cacheFor query) session.sent).cache.entries,
      engine.Genuine frame column (.ofQueries queries) entry := cacheFor_genuine genuine query
  obtain ⟨followers, followed, follow, head⟩ := runTasks_follow backend apart
    (PlannedQuery.tasks_sound listed markers made) (fun task member => points planned made task member)
    (fun task member => built.bucketSet_eq_none unplaced (each task member).2.2) rfl
    cached gathered
  have planFollows : planned.plan.Follows (tables.Differ followers) tables followers := by
    intro key scope found
    obtain ⟨task, member, same, own⟩ := Plan.exists_task_of_lookup built tasks_eq found
    obtain ⟨other, otherMember, otherSame, gone, table, follower, tableFound, followerFound, follows⟩ :=
      follow key (List.mem_map.mpr ⟨task, member, same⟩)
    obtain rfl : other.scope = scope := by
      have otherFound := (each other otherMember).2.2
      rw [otherSame, found] at otherFound
      exact (Option.some.inj otherFound).symm
    rw [ScopeTables.differ_iff tableFound followerFound]
    exact ⟨table, follower, tableFound, followerFound, follows.of_agrees⟩
  have planApart : planned.plan.KeysTellApart := fun first second =>
    apart.scopes ⟨query, listed, planned.plan, planBuilt, first⟩
      ⟨query, listed, planned.plan, planBuilt, second⟩
  obtain ⟨other, result_eq, same, emptied, rows⟩ := planFollows.result built planApart ran
  obtain ⟨rootTask, first, root, own⟩ := Plan.exists_root_task built tasks_eq
  obtain ⟨rootTable, rootFollower, rootFound, rootFollowerFound, rootFollows⟩ := head rootTask first
  rw [root] at rootFound rootFollowerFound
  have differ_iff : tables.Differ followers planned.plan.root ↔
      rootTask.LosesRows (session.cacheFor query) rootTable :=
    (ScopeTables.differ_iff rootFound rootFollowerFound).trans (Plan.ScopeTask.losesRows_iff rootFollows)
  have measures := (each rootTask (List.mem_of_mem_head? first)).2.1
  have outcome : (do
      planned.plan.result planned.query.orders (← Plan.gather planned.tasks ((Session.mk
        (session.cacheFor query) session.sent).runTasks engine planned.tasks).2)) = .ok other := by
    rw [followed, ok_bind, result_eq]
  rw [outcome]
  -- A result without columns has no rows to lose.
  rcases rows rootTable rootFound with empty | sameRows
  · have unchanged : other = table := by
      by_cases differs : tables.Differ followers planned.plan.root
      · exact (emptied differs).2 empty
      · exact same differs
    have noRows : table.rowCount = 0 := by
      unfold Table.rowCount
      rw [empty]
    exact ⟨fun _ => congrArg _ unchanged, fun loses => absurd noRows loses.2.1⟩
  · rw [losesRows_iff planBuilt root own measures sameRows, ← differ_iff]
    exact ⟨fun keeps => congrArg _ (same keeps), fun loses => ⟨other, rfl, (emptied loses).1⟩⟩

/-- A query that succeeds without a cache, executed after any others that share a cache of any
capacity with it: the table is the same, whatever was cached or evicted, unless the query groups by
nothing and all that the database computes for its own scope is cached. Then the result has no row. -/
theorem Session.execute_unless_rows_lost {engine : Engine} {frame : Statement → List Column}
    {column : Statement → TypedMeasure → Column} (backend : engine.Columnwise frame column)
    (capacity : Nat) (earlier : List Query) (query : Query) (table : Table)
    (keys : (Reach.ofQueries (query :: earlier)).KeysTellApart)
    (markers : ∀ other ∈ query :: earlier, other.MarkersApart engine)
    (points : query.PointsApart engine) (unplaced : query.columns = [] → query.bucketSet = none)
    (direct : (Session.execute engine (.ofCache .disabled) query).2 = .ok table) :
    let session := (Session.ofCache (.memory (.ofCapacity capacity))).after engine earlier
    (¬session.LosesRows query table → (session.execute engine query).2 = .ok table) ∧
      (session.LosesRows query table →
        ∃ lost, (session.execute engine query).2 = .ok lost ∧ lost.rowCount = 0) := by
  intro session
  have fresh : ∀ entry ∈ (Session.ofCache (.memory (.ofCapacity capacity))).cache.entries,
      engine.Genuine frame column (.ofQueries (query :: earlier)) entry :=
    fun _ listed => absurd listed List.not_mem_nil
  have genuine := after_genuine backend earlier (List.subset_cons_self query earlier) markers
    fresh
  exact execute_follows backend List.mem_cons_self keys (markers query List.mem_cons_self)
    points.determine unplaced rfl genuine direct

/-! ### A total, executed twice -/

/-- The sum of all prices. -/
def totalQuery : Query :=
  { Query.empty with
    table := some (.ofName "sales")
    measures := [.aggregated "total" (.ofName "price") "sum" none] }

/-- A database of two prices. -/
def pricesEngine : Engine :=
  .ofRows .generic (.ofList [⟨"sales", [⟨"price", .long⟩]⟩])
    [("sales", [[("price", .int 12)], [("price", .int 9)]])]

def totalTable : Table := ⟨[⟨.measure "total" .long, [.int 21]⟩]⟩

def totalStatement : Statement :=
  ⟨some ⟨"sales", false, []⟩, none, [], [], [], [],
    [.aggregated "total" (.column none "price" .long none) "sum" none], none, none, none⟩

/-- A query over one source that asks for the total. -/
structure Query.AsksTotal (query : Query) : Prop where
  source : query.table.isSome ≠ query.subQuery.isSome
  measures : query.measures = totalQuery.measures

theorem totalQuery_asks : totalQuery.AsksTotal := ⟨by decide, rfl⟩

/-- The plan of a query for the total. Its key is left open, as no step depends on what the digest is. -/
def totalPlan (query : Query) (key : ScopeKey) : Plan :=
  ⟨key, ⟨totalQuery.measures⟩, ["total"], ⟨[(key, .ofQuery query)], ⟨[⟨key, "total"⟩], []⟩⟩⟩

def totalTask (key : ScopeKey) : Plan.ScopeTask :=
  ⟨key, .ofQuery totalQuery, totalQuery.measures, totalStatement⟩

theorem totalArena_run (scope : Scope) :
    (Discovery.mk [(scope.key, scope)] ⟨[⟨scope.key, "total"⟩], []⟩).run ⟨totalQuery.measures⟩
        (Discovery.nodeBound ⟨totalQuery.measures⟩ scope + 1) 0 =
      .ok ⟨[(scope.key, scope)], ⟨[⟨scope.key, "total"⟩], []⟩⟩ := by
  obtain ⟨more, bound_eq⟩ : ∃ more, Discovery.nodeBound ⟨totalQuery.measures⟩ scope = more + 1 :=
    Discovery.exists_nodeBound_eq ..
  rw [bound_eq]
  simp [totalQuery, Discovery.run, Discovery.expand, Discovery.scope, Arena.get, Arena.find?,
    Measure.label, Measure.dependencies, Measure.operands]

theorem totalPlan_built {query : Query} (asks : query.AsksTotal) :
    Plan.build query = .ok (totalPlan query (Scope.ofQuery query).key) := by
  have arena : Arena.build query.measures = .ok ⟨totalQuery.measures⟩ := by
    rw [asks.measures]
    rfl
  have requested : Plan.requestedLabels ⟨totalQuery.measures⟩ query.measures [] = .ok ["total"] := by
    rw [asks.measures]
    rfl
  refine Plan.build_eq_ok.mpr ⟨asks.source, arena, requested, rfl, totalArena_run _, ?_⟩
  generalize (Scope.ofQuery query).key = key
  rfl

theorem totalPlan_databaseMeasures {query : Query} {key other : ScopeKey}
    (listed : other ∈ (totalPlan query key).scopeKeys) :
    (totalPlan query key).databaseMeasures other = .ok totalQuery.measures := by
  obtain rfl : other = key := List.mem_singleton.mp listed
  simp [totalPlan, Plan.databaseMeasures, Plan.graph]
  rfl

theorem totalPlan_tasks (key : ScopeKey) :
    pricesEngine.tasks (totalPlan totalQuery key) = .ok [totalTask key] :=
  Plan.tasks_of_alone rfl (totalPlan_databaseMeasures (List.mem_singleton_self key)) rfl ⟨_, rfl⟩

theorem totalQuery_planned : PlannedQuery.of pricesEngine totalQuery =
    .ok ⟨totalQuery, totalPlan totalQuery (Scope.ofQuery totalQuery).key,
      [totalTask (Scope.ofQuery totalQuery).key]⟩ := by
  unfold PlannedQuery.of
  rw [totalPlan_built totalQuery_asks, ok_bind, totalPlan_tasks]
  rfl

theorem totalPlan_result {query : Query} (key : ScopeKey) {orders : List (Field × SortOrder)}
    {table projected result : Table}
    (found : table.project ((Scope.ofQuery query).groupingNames ++ ["total"]) = .ok projected)
    (ordered : projected.ordered orders = .ok result) :
    (totalPlan query key).result orders [(key, table)] = .ok result := by
  have evaluated : (totalPlan query key).evaluate [(key, table)] = .ok [(key, table)] := by cbv
  have root : (totalPlan query key).rootScope = .ok (.ofQuery query) := by
    simp [totalPlan, Plan.rootScope, Plan.scope, Discovery.scope]
  have known : [(key, table)].lookup (totalPlan query key).root = some table := by simp [totalPlan]
  have requested : (totalPlan query key).requested = ["total"] := rfl
  unfold Plan.result
  simp only [evaluated, root, known, requested, ok_bind, found]
  exact mapError_eq_ok.mpr ordered

theorem totalQuery_direct :
    (Session.execute pricesEngine (.ofCache .disabled) totalQuery).2 = .ok totalTable := by
  have alone : (Session.ofCache .disabled).cacheFor totalQuery = .disabled := rfl
  have ordered : totalTable.ordered [] = .ok totalTable := by decide +kernel
  rw [Session.execute_eq_result totalQuery_planned, alone]
  have gathered (key : ScopeKey) : Plan.gather [totalTask key]
      ((Session.ofCache .disabled).runTasks pricesEngine [totalTask key]).2 = .ok [(key, totalTable)] :=
    Session.gather_alone (List.cons_ne_nil _ _) rfl rfl rfl
  exact bind_eq_ok.mpr ⟨_, gathered _, totalPlan_result _ rfl ordered⟩

theorem totalTask_stored (key : ScopeKey) : ∃ sent,
    ((Session.ofCache (.memory (.ofCapacity 100))).runTasks pricesEngine [totalTask key]).1 =
      ⟨.memory ⟨100, [⟨.of key (.aggregated "total" (.ofName "price") "sum" none), totalTable⟩], 0, 1,
        .none⟩, sent⟩ := ⟨_, rfl⟩

theorem totalQuery_loses :
    ((Session.ofCache (.memory (.ofCapacity 100))).after pricesEngine [totalQuery]).LosesRows
      totalQuery totalTable := by
  have asked : totalQuery.databaseMeasures = .ok totalQuery.measures :=
    bind_eq_ok.mpr ⟨_, totalPlan_built totalQuery_asks,
      totalPlan_databaseMeasures (List.mem_singleton_self _)⟩
  refine ⟨rfl, by decide, totalQuery.measures, asked, fun measure listed => ?_⟩
  obtain ⟨sent, stored⟩ := totalTask_stored (Scope.ofQuery totalQuery).key
  have found (cache : QueryCache) : (Session.mk cache sent).cacheFor totalQuery = cache := rfl
  unfold Session.after
  rw [List.foldl_cons, List.foldl_nil, Session.execute_of_use totalQuery_planned rfl, stored, found]
  obtain rfl := List.mem_singleton.mp listed
  exact MemoryCache.contains_of_mem (List.mem_singleton_self _) rfl

theorem totalPlan_involves {query : Query} {key : ScopeKey} {scope : Scope}
    (involved : (totalPlan query key).Involves scope) : scope = .ofQuery query := by
  refine involved.eq_of_alone rfl fun measure member dependencies read dependency listed => ?_
  obtain rfl := List.mem_singleton.mp member
  obtain rfl := Except.ok.inj read
  cases listed

/-- Runs of one query for the total know one scope and one measure. -/
theorem Query.AsksTotal.keys {query : Query} (asks : query.AsksTotal) {queries : List Query}
    (only : ∀ other ∈ queries, other = query) : (Reach.ofQueries queries).KeysTellApart := by
  have planned {other : Query} (listed : other ∈ queries) {plan : Plan}
      (built : Plan.build other = .ok plan) : plan = totalPlan query (Scope.ofQuery query).key := by
    rw [only other listed] at built
    exact Except.ok.inj (built.symm.trans (totalPlan_built asks))
  have oneScope {scope : Scope} (known : (Reach.ofQueries queries).scopes scope) :
      scope = .ofQuery query := by
    obtain ⟨other, listed, plan, built, involved⟩ := known
    obtain rfl := planned listed built
    exact totalPlan_involves involved
  have oneMeasure {measure : Measure} (known : (Reach.ofQueries queries).measures measure) :
      measure = .aggregated "total" (.ofName "price") "sum" none := by
    obtain ⟨other, listed, plan, built, key, member, measures, asked, read⟩ := known
    obtain rfl := planned listed built
    obtain rfl := Except.ok.inj ((totalPlan_databaseMeasures member).symm.trans asked)
    exact List.mem_singleton.mp read
  exact ⟨fun known other _ => (oneScope known).trans (oneScope other).symm,
    fun known other _ => (oneMeasure known).trans (oneMeasure other).symm⟩

/-- A total is right the first time, and without rows the second time. -/
theorem Session.total_loses_row :
    let session := (Session.ofCache (.memory (.ofCapacity 100))).after pricesEngine [totalQuery]
    (Session.execute pricesEngine (.ofCache .disabled) totalQuery).2 = .ok totalTable ∧
      session.LosesRows totalQuery totalTable ∧
      ∃ lost, (session.execute pricesEngine totalQuery).2 = .ok lost ∧ lost.rowCount = 0 := by
  have markers : totalQuery.MarkersApart pricesEngine := by
    intro planned made
    obtain rfl := Except.ok.inj (totalQuery_planned.symm.trans made)
    intro task listed
    obtain rfl := List.mem_singleton.mp listed
    exact nofun
  have points : totalQuery.PointsApart pricesEngine := by
    intro planned made
    obtain rfl := Except.ok.inj (totalQuery_planned.symm.trans made)
    intro task listed number table received
    obtain rfl := List.mem_singleton.mp listed
    have answer : pricesEngine.receive number totalStatement = .ok totalTable := rfl
    obtain rfl := Except.ok.inj (answer.symm.trans received)
    decide
  refine ⟨totalQuery_direct, totalQuery_loses, ?_⟩
  have keys : (Reach.ofQueries [totalQuery, totalQuery]).KeysTellApart := totalQuery_asks.keys (by simp)
  exact (execute_unless_rows_lost (Engine.columnwise_ofRows ..) 100 [totalQuery] totalQuery totalTable
    keys (List.forall_mem_cons.mpr ⟨markers, List.forall_mem_singleton.mpr markers⟩) points
    (fun _ => rfl) totalQuery_direct).2 totalQuery_loses

end CubeQuery
