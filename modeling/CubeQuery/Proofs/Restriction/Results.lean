import CubeQuery.Proofs.Restriction.Tables

/-! The result of a query that filters groups, against its result without these filters: it has some of
the rows, and in these rows every measure has the same value. The values are those that measures in
memory take from other rows, so they hold only if no row that is referred to has been dropped: scopes
that are derived from the query's own keep all rows, but bucket comparisons of the own scope refer to
the rows that the filters leave. -/

namespace CubeQuery

open Steps

/-! ### Rows -/

namespace Table

variable {table whole projected other ordered : Table} {kept : List Nat} {names : List String}

theorem rows_of_picked {columns others : List Column}
    (picked : List.Forall₂ (fun column other => column.PickedFrom kept other) columns others) :
    (List.range kept.length).map (cells columns) = kept.map (cells others) :=
  map_range_eq fun _ inside => cells_of_picked picked inside

theorem rows_eq_nil (empty : table.columns = []) : table.rows = [] := by
  obtain ⟨columns⟩ := table
  subst empty
  rfl

/-- A table in order has the same rows. -/
theorem rows_ordered {orders : List (Field × SortOrder)} (sorted : table.ordered orders = .ok ordered) :
    ordered.rows.Perm table.rows := by
  obtain ⟨places, same, rfl⟩ := ordered_eq_ok sorted
  by_cases empty : table.columns = []
  · have emptied : (table.takeRows places).columns = [] := List.map_eq_nil_iff.mpr empty
    rw [rows_eq_nil empty, rows_eq_nil emptied]
  · rw [rows_takeRows empty]
    exact same.map table.row

theorem columnsNamed_of_project (found : table.project names = .ok projected) :
    table.columnsNamed names = .ok projected.columns := by
  unfold Table.project at found
  obtain ⟨columns, columns_eq, found⟩ := bind_eq_ok.mp found
  obtain rfl := Except.ok.inj found
  exact columns_eq

/-- The rows that are kept, in some of the columns. -/
theorem Selects.project (selects : table.Selects whole kept)
    (lengths : ∀ column ∈ whole.columns, column.values.length = whole.rowCount)
    (found : table.project names = .ok projected) (otherFound : whole.project names = .ok other) :
    projected.rows.Sublist other.rows := by
  have picked := selects.columnsNamed (columnsNamed_of_project found) (columnsNamed_of_project otherFound)
  have some_rows : projected.columns = [] ∨
      projected.rowCount = kept.length ∧ other.rowCount = whole.rowCount := by
    have included := columns_of_project otherFound
    unfold Table.rowCount
    generalize projected.columns = columns at picked
    generalize other.columns = others at picked included
    cases picked with
    | nil => exact .inl rfl
    | cons first _ =>
      refine .inr ⟨?_, lengths _ (included List.mem_cons_self)⟩
      exact (congrArg List.length first).trans (List.length_map _)
  rcases some_rows with empty | ⟨count, otherCount⟩
  · rw [rows_eq_nil empty]
    exact List.nil_sublist _
  · have rows_eq : projected.rows = kept.map other.row := by
      unfold rows rowIndices
      rw [count]
      exact rows_of_picked picked
    have otherRows_eq : other.rows = whole.rowIndices.map other.row := by
      unfold rows rowIndices
      rw [otherCount]
    rw [rows_eq, otherRows_eq]
    exact selects.sublist.map _

end Table

/-! ### Queries -/

/-- The table that the database has of a query's own scope. -/
def Query.OwnTable (engine : Engine) (query : Query) (table : Table) : Prop :=
  ∃ planned, PlannedQuery.of engine query = .ok planned ∧
    ∃ task ∈ planned.tasks, task.key = planned.plan.root ∧ task.Gives engine table

/-- The filters after grouping of a query drop no row of a point that its own bucket comparisons refer
to. -/
def Query.KeepsReferences (engine : Engine) (query : Query) : Prop :=
  ∀ plan table whole, Plan.build query = .ok plan → query.OwnTable engine table →
    query.unrestricted.OwnTable engine whole → plan.KeepsReferences (.ofQuery query) table whole

namespace Plan

variable {plan free : Plan} {query : Query}

theorem freedBy_of_build (built : Plan.build query = .ok plan)
    (otherBuilt : Plan.build query.unrestricted = .ok free) (apart : plan.KeysTellApart)
    (otherApart : free.KeysTellApart) : plan.FreedBy free query := by
  obtain ⟨-, arena_eq, requested_eq, -⟩ := build_eq_ok.mp built
  obtain ⟨-, otherArena_eq, otherRequested_eq, -⟩ := build_eq_ok.mp otherBuilt
  have arena : free.arena = plan.arena := Except.ok.inj (otherArena_eq.symm.trans arena_eq)
  rw [arena] at otherRequested_eq
  exact ⟨wellBuilt_of_build built, wellBuilt_of_build otherBuilt, apart, otherApart, arena,
    Except.ok.inj (otherRequested_eq.symm.trans requested_eq)⟩

/-- What a plan gives in the end comes from its own table. -/
theorem WellBuilt.result_eq_ok (built : plan.WellBuilt query) {orders : List (Field × SortOrder)}
    {tables : ScopeTables} {result : Table} (ran : plan.result orders tables = .ok result) :
    ∃ final table projected, plan.evaluate tables = .ok final ∧ final.lookup plan.root = some table ∧
      table.project ((Scope.ofQuery query).groupingNames ++ plan.requested) = .ok projected ∧
      projected.ordered orders = .ok result := by
  have rootScope : plan.rootScope = .ok (.ofQuery query) := Discovery.scope_eq_ok.mpr built.rootScope
  unfold Plan.result at ran
  obtain ⟨final, final_eq, ran⟩ := bind_eq_ok.mp ran
  rw [rootScope, ok_bind] at ran
  cases found : final.lookup plan.root with
  | none =>
    rw [found] at ran
    cases ran
  | some table =>
    rw [found] at ran
    obtain ⟨projected, projected_eq, sorted⟩ := bind_eq_ok.mp ran
    exact ⟨final, table, projected, final_eq, found, mapError_eq_ok.mp projected_eq,
      mapError_eq_ok.mp sorted⟩

/-- The result over the rows that are kept has some of the rows of the result over all. -/
theorem Restricts.result {kept : List Nat} {tables wholes : ScopeTables}
    (restricts : plan.Restricts free kept tables wholes) (freed : plan.FreedBy free query)
    (tablesFormed : tables.Formed) (formed : wholes.Formed) (tablesStored : plan.Stored tables)
    (stored : free.Stored wholes) (references : plan.OwnReferences free query tables wholes)
    {orders : List (Field × SortOrder)} {limited whole : Table}
    (ran : plan.result orders tables = .ok limited) (wholeRan : free.result orders wholes = .ok whole) :
    limited.names = whole.names ∧ limited.rows.Subperm whole.rows := by
  obtain ⟨final, table, projected, final_eq, found, projected_eq, sorted⟩ :=
    freed.built.result_eq_ok ran
  obtain ⟨wholeFinal, wholeTable, other, wholeFinal_eq, wholeFound, other_eq, otherSorted⟩ :=
    freed.otherBuilt.result_eq_ok wholeRan
  obtain ⟨finalRestricts, wholeFormed⟩ := restricts.evaluate freed tablesFormed formed tablesStored stored
    references final_eq wholeFinal_eq
  have planned := freed.built.rootScope
  have otherPlanned := freed.otherBuilt.rootScope
  rw [freed.built.root] at planned
  rw [freed.otherBuilt.root, Scope.ofQuery_unrestricted] at otherPlanned
  obtain ⟨own, ownWhole, ownFound, ownWholeFound, selects⟩ :=
    finalRestricts (.own planned otherPlanned freed.built.root)
  rw [← freed.built.root, found] at ownFound
  rw [← Scope.ofQuery_unrestricted, ← freed.otherBuilt.root, wholeFound] at ownWholeFound
  obtain rfl := Option.some.inj ownFound
  obtain rfl := Option.some.inj ownWholeFound
  rw [freed.requested] at other_eq
  constructor
  · obtain ⟨places, -, rfl⟩ := Table.ordered_eq_ok sorted
    obtain ⟨otherPlaces, -, rfl⟩ := Table.ordered_eq_ok otherSorted
    rw [Table.names_takeRows, Table.names_takeRows, Table.names_of_project projected_eq,
      Table.names_of_project other_eq]
    rfl
  · have sublist := selects.project (wholeFormed wholeFound).1.lengths projected_eq other_eq
    exact ((Table.rows_ordered sorted).subperm.trans sublist.subperm).trans
      (Table.rows_ordered otherSorted).symm.subperm

end Plan

/-- Executed over the same data, a query that filters groups gives some of the rows that it gives without
its limit and its filter on groups, with the same value for every measure. Only bucket comparisons of the
query's own scope can be deprived of what they refer to, so they are the condition. -/
theorem Session.restricted_rows_subperm {engine : Engine} {frame : Statement → List Column}
    {column : Statement → TypedMeasure → Column} (backend : engine.Columnwise frame column)
    (drops : engine.DropsRows frame column) {query : Query}
    (keys : ∀ other ∈ [query, query.unrestricted], ∀ plan, Plan.build other = .ok plan →
      plan.KeysTellApart)
    (markers : ∀ other ∈ [query, query.unrestricted], other.MarkersApart engine)
    (counts : ∀ arena, Arena.build query.measures = .ok arena → arena.CountsRows)
    (references : query.KeepsReferences engine) {session other : Session}
    (lacks : session.Lacks query) (otherLacks : other.Lacks query.unrestricted) {limited whole : Table}
    (executed : (session.execute engine query).2 = .ok limited)
    (otherExecuted : (other.execute engine query.unrestricted).2 = .ok whole) :
    limited.names = whole.names ∧ limited.rows.Subperm whole.rows := by
  obtain ⟨keysOf, keysOfOther⟩ := List.forall_mem_cons.mp keys
  obtain ⟨markersOf, markersOfOther⟩ := List.forall_mem_cons.mp markers
  obtain ⟨planned, tables, made, give, ran⟩ := execute_of_lacks lacks executed
  obtain ⟨free, wholes, otherMade, wholesGive, wholeRan⟩ := execute_of_lacks otherLacks otherExecuted
  obtain ⟨-, built, -⟩ := PlannedQuery.of_eq_ok made
  obtain ⟨-, otherBuilt, -⟩ := PlannedQuery.of_eq_ok otherMade
  have freed := Plan.freedBy_of_build built otherBuilt (keysOf _ built)
    (List.forall_mem_singleton.mp keysOfOther _ otherBuilt)
  obtain ⟨-, arena_eq, -⟩ := Plan.build_eq_ok.mp built
  have countsRows := counts _ arena_eq
  obtain ⟨serves, all⟩ := PlannedQuery.serves markersOf made
  obtain ⟨otherServes, otherAll⟩ :=
    PlannedQuery.serves (List.forall_mem_singleton.mp markersOfOther) otherMade
  obtain ⟨kept, restricts⟩ := give.restricts wholesGive drops backend freed countsRows serves all
    otherServes otherAll
  have own {planned : PlannedQuery} {query : Query} {tables : ScopeTables}
      (made : PlannedQuery.of engine query = .ok planned) (give : tables.Give engine planned.tasks)
      {table : Table} (found : tables.lookup planned.plan.root = some table) :
      query.OwnTable engine table := by
    obtain ⟨task, listed, isRoot, gives⟩ := give.task found
    exact ⟨planned, made, task, listed, isRoot, gives⟩
  have ownReferences : planned.plan.OwnReferences free.plan query tables wholes := by
    obtain ⟨rootTask, rootListed, rootKey, -⟩ := all freed.built.rootScope
    obtain ⟨otherRoot, otherListed, otherKey, -⟩ := otherAll freed.otherBuilt.rootScope
    obtain ⟨table, found, -⟩ := give.each rootTask rootListed
    obtain ⟨whole, wholeFound, -⟩ := wholesGive.each otherRoot otherListed
    rw [rootKey] at found
    rw [otherKey] at wholeFound
    exact ⟨table, whole, found, wholeFound, references _ table whole built (own made give found)
      (own otherMade wholesGive wholeFound)⟩
  have otherCounts : free.plan.arena.CountsRows := freed.arena ▸ countsRows
  exact restricts.result freed (give.formed backend serves) (wholesGive.formed backend otherServes)
    (give.stored backend countsRows serves) (wholesGive.stored backend otherCounts otherServes)
    ownReferences ran wholeRan

/-! ### A growth over scenarios, limited -/

/-- The sum of prices for each scenario and its growth over the one before. -/
def growthQuery (limit : Option Nat) : Query :=
  { Query.empty with
    table := some (.ofName "sales")
    columns := [.ofName "scenario"]
    bucketSet := some ⟨"group", .ofName "scenario", [⟨"all", [.str "base", .str "s1", .str "s2"]⟩]⟩
    measures := [.aggregated "total" (.ofName "price") "sum" none,
      .comparison "growth" .absoluteDifference (.ref "total")
        (.ofList [(.ofName "scenario", "s-1")]) none (some .bucket) none]
    limit }

/-- A database of three scenarios. -/
def scenariosEngine : Engine :=
  .ofRows .generic (.ofList [⟨"sales", [⟨"scenario", .string⟩, ⟨"price", .long⟩]⟩])
    [("sales", [[("scenario", .str "base"), ("price", .int 10)],
      [("scenario", .str "s1"), ("price", .int 12)], [("scenario", .str "s2"), ("price", .int 5)]])]

def growthStatement (limit : Option Nat) : Statement :=
  ⟨some ⟨"sales", false, []⟩, none, [], [.column none "scenario" .string none], [], [],
    [.aggregated "total" (.column none "price" .long none) "sum" none], none, none, limit⟩

def growthArena : Arena := ⟨(growthQuery none).measures⟩

def growthPlan (scope : Scope) (key : ScopeKey) : Plan :=
  ⟨key, growthArena, ["total", "growth"],
    ⟨[(key, scope)], ⟨[⟨key, "total"⟩, ⟨key, "growth"⟩], [(1, 0)]⟩⟩⟩

def growthTask (limit : Option Nat) (key : ScopeKey) : Plan.ScopeTask :=
  ⟨key, .ofQuery (growthQuery limit), [.aggregated "total" (.ofName "price") "sum" none],
    growthStatement limit⟩

theorem growthArena_run (scope : Scope) (buckets : scope.bucketSet.isSome = true) :
    (Plan.start scope ["total", "growth"]).run growthArena
      (Discovery.nodeBound growthArena scope + 1) 0 =
        .ok ⟨[(scope.key, scope)], ⟨[⟨scope.key, "total"⟩, ⟨scope.key, "growth"⟩], [(1, 0)]⟩⟩ := by
  obtain ⟨more, bound_eq⟩ : ∃ more, Discovery.nodeBound growthArena scope = more + 2 :=
    Discovery.exists_nodeBound_eq ..
  rw [bound_eq]
  simp [Plan.start, Discovery.run, Graph.addNode, Graph.empty, Discovery.expand, Discovery.scope, Arena.get,
    Arena.find?, growthArena, growthQuery, Measure.label, Measure.dependencies, Measure.operands,
    Discovery.addDependency, Discovery.addScope, Graph.addDependency, Graph.indexOf?, Graph.addEdge,
    List.findIdx?_cons, Scope.forComparison, buckets]

theorem growthPlan_built (limit : Option Nat) : Plan.build (growthQuery limit) =
    .ok (growthPlan (.ofQuery (growthQuery limit)) (Scope.ofQuery (growthQuery limit)).key) := by
  refine Plan.build_eq_ok.mpr ⟨by simp [growthQuery, Query.empty], rfl, rfl, rfl, growthArena_run _ rfl, ?_⟩
  generalize (Scope.ofQuery (growthQuery limit)).key = key
  rfl

theorem growthPlan_databaseMeasures (scope : Scope) (key : ScopeKey) :
    (growthPlan scope key).databaseMeasures key = .ok [.aggregated "total" (.ofName "price") "sum" none] := by
  simp [growthPlan, Plan.databaseMeasures, Plan.graph]
  rfl

theorem growthPlan_tasks (limit : Option Nat) (key : ScopeKey) :
    scenariosEngine.tasks (growthPlan (.ofQuery (growthQuery limit)) key) = .ok [growthTask limit key] :=
  Plan.tasks_of_alone rfl (growthPlan_databaseMeasures ..) rfl (by cases limit <;> exact ⟨_, rfl⟩)

theorem growthQuery_planned (limit : Option Nat) : PlannedQuery.of scenariosEngine (growthQuery limit) =
    .ok ⟨growthQuery limit, growthPlan (.ofQuery (growthQuery limit)) (Scope.ofQuery (growthQuery limit)).key,
      [growthTask limit (Scope.ofQuery (growthQuery limit)).key]⟩ := by
  unfold PlannedQuery.of
  rw [growthPlan_built, ok_bind, growthPlan_tasks]
  rfl

def scenarioRows : List Row :=
  [[("scenario", .str "base"), ("price", .int 10)], [("scenario", .str "s1"), ("price", .int 12)],
    [("scenario", .str "s2"), ("price", .int 5)]]

theorem growthStatement_groups (limit : Option Nat) :
    MemoryDatabase.groups (growthStatement limit) scenarioRows =
      [.str "base", .str "s1", .str "s2"].map fun scenario =>
        ([.column none "scenario" .string none], [scenario]) := by
  have keys : (growthStatement limit).groupKeys [.column none "scenario" .string none] scenarioRows =
      [[.str "base"], [.str "s1"], [.str "s2"]] := by
    have unsorted : (scenarioRows.map ((growthStatement limit).groupKey
        [.column none "scenario" .string none])).eraseDups =
          [[.str "base"], [.str "s1"], [.str "s2"]] := rfl
    unfold Statement.groupKeys
    rw [if_neg (by simp [growthStatement]), unsorted]
    exact List.mergeSort_of_pairwise (by decide +kernel)
  have sets : (growthStatement limit).groupingSetList = [[.column none "scenario" .string none]] := rfl
  unfold MemoryDatabase.groups
  rw [sets, List.flatMap_singleton, keys]
  rfl

/-- What the database has for some of the scenarios. -/
def growthRaw (scenarios totals : List Value) : Table :=
  ⟨[⟨.grouping "scenario" .string, scenarios⟩, ⟨.measure "total" .long, totals⟩]⟩

theorem growthStatement_received {limit : Option Nat} {table : Table}
    (columns : MemoryDatabase.frontColumns ⟨[("sales", scenarioRows)], false⟩ (growthStatement limit)
      scenarioRows ++ (growthStatement limit).measures.map
        (MemoryDatabase.measureColumn (growthStatement limit) scenarioRows) = table.columns)
    (formed : table.checkColumns = .ok ()) (number : Nat) :
    scenariosEngine.receive number (growthStatement limit) = .ok table := by
  have aggregates : MemoryDatabase.Aggregates (growthStatement limit) scenarioRows := by
    intro group listed measure asked
    obtain rfl := List.mem_singleton.mp asked
    rw [growthStatement_groups] at listed
    obtain ⟨scenario, member, rfl⟩ := List.mem_map.mp listed
    simp only [List.mem_cons, List.not_mem_nil, or_false] at member
    rcases member with rfl | rfl | rfl <;> exact ⟨_, rfl⟩
  have answered : scenariosEngine.answer number (growthStatement limit) = .ok table :=
    MemoryDatabase.answer_eq_ok.mpr ⟨rfl, scenarioRows, rfl, aggregates,
      MemoryDatabase.ofRows_lines_eq_ok.mpr
        ⟨congrArg Table.mk columns.symm, Table.checkColumns_eq_ok.mp formed⟩⟩
  unfold Engine.receive
  rw [answered]
  rfl

theorem growth_limited (number : Nat) : scenariosEngine.receive number (growthStatement (some 2)) =
    .ok (growthRaw [.str "base", .str "s1"] [.int 10, .int 12]) := by
  refine growthStatement_received ?_ rfl number
  unfold MemoryDatabase.frontColumns MemoryDatabase.measureColumn
  rw [growthStatement_groups]
  rfl

theorem growth_whole (number : Nat) : scenariosEngine.receive number (growthStatement none) =
    .ok (growthRaw [.str "base", .str "s1", .str "s2"] [.int 10, .int 12, .int 5]) := by
  refine growthStatement_received ?_ rfl number
  unfold MemoryDatabase.frontColumns MemoryDatabase.measureColumn
  rw [growthStatement_groups]
  rfl

/-- The rows of a growth, with their buckets. -/
def growthTable (scenarios totals : List Value) : Table :=
  ⟨⟨.grouping "group" .string, scenarios.map fun _ => .str "all"⟩ :: (growthRaw scenarios totals).columns⟩

theorem growthPlan_keys (limit : Option Nat) {plan : Plan} (built : Plan.build (growthQuery limit) = .ok plan) :
    plan.KeysTellApart := by
  obtain rfl := Except.ok.inj ((growthPlan_built limit).symm.trans built)
  have only {scope : Scope} (involved : (growthPlan (.ofQuery (growthQuery limit))
      (Scope.ofQuery (growthQuery limit)).key).Involves scope) : scope = .ofQuery (growthQuery limit) := by
    refine involved.eq_of_alone rfl fun measure listed dependencies read dependency member => ?_
    simp only [growthPlan, growthArena, growthQuery, List.mem_cons, List.not_mem_nil, or_false] at listed
    rcases listed with rfl | rfl
    · obtain rfl := Except.ok.inj read
      cases member
    · have own : (Scope.ofQuery (growthQuery limit)).forComparison "growth" none (some .bucket) none =
          .ok (.ofQuery (growthQuery limit)) := rfl
      rw [Measure.dependencies, own, ok_bind, if_pos rfl] at read
      obtain rfl := Except.ok.inj read
      exact congrArg Prod.fst (List.mem_singleton.mp member)
  intro first second firstInvolved secondInvolved _
  exact (only firstInvolved).trans (only secondInvolved).symm

theorem growthPlan_layers (scope : Scope) (key : ScopeKey) :
    (growthPlan scope key).inMemoryLayers = .ok [[⟨key, "growth"⟩]] := by cbv

theorem growthPlan_reference (scope : Scope) (key : ScopeKey) :
    (growthPlan scope key).referenceScope ⟨key, "growth"⟩ = key := by
  have read : (growthPlan scope key).graph.dependencies ⟨key, "growth"⟩ = [⟨key, "total"⟩] := by
    have place : (growthPlan scope key).graph.indexOf? ⟨key, "growth"⟩ = some 1 := by
      simp [growthPlan, Plan.graph, Graph.indexOf?, List.findIdx?_cons]
    have sorted : (growthPlan scope key).graph.sortedSuccessors 1 = [0] := List.mergeSort_singleton 0
    unfold Graph.dependencies
    rw [place]
    simp only [sorted]
    rfl
  unfold Plan.referenceScope
  rw [read]
  simp

theorem growthPlan_evaluated {scope : Scope} {key : ScopeKey} {table extended : Table} {values : List Value}
    (computed : ComparisonMethod.absoluteDifference.column "total" table table
      (Shifter.ofComparison scope "growth" (.ofList [(.ofName "scenario", "s-1")]) none (some .bucket)
        none) = .ok values)
    (added : table.addColumn ⟨.measure "growth" (inferredType values), values⟩ = .ok extended) :
    (growthPlan scope key).evaluate [(key, table)] = .ok [(key, extended)] := by
  have own : ScopeTables.get [(key, table)] key = .ok table := by simp [ScopeTables.get]
  have planned : (growthPlan scope key).scope key = .ok scope := by
    simp [growthPlan, Plan.scope, Discovery.scope]
  have column : (growthPlan scope key).nodeColumn [(key, table)] ⟨key, "growth"⟩ = .ok values := by
    unfold Plan.nodeColumn
    refine bind_eq_ok.mpr ⟨_, rfl, ?_⟩
    simp only [own, planned, growthPlan_reference, ok_bind]
    exact computed
  have evaluated : (growthPlan scope key).evaluateNode [(key, table)] ⟨key, "growth"⟩ =
      .ok [(key, extended)] := by
    unfold Plan.evaluateNode
    rw [column, ok_bind, own, ok_bind, added]
    simp [Table.lift, Except.mapError, ScopeTables.set]
  unfold Plan.evaluate
  rw [growthPlan_layers, ok_bind]
  exact bind_eq_ok.mpr ⟨_, evaluated, rfl⟩

/-- The result of a growth. -/
def growthResult (scenarios totals growths : List Value) : Table :=
  (growthTable scenarios totals).extend [⟨.measure "growth" .long, growths⟩]

theorem growth_executed {limit : Option Nat} {scenarios totals growths : List Value}
    (received : scenariosEngine.receive 0 (growthStatement limit) = .ok (growthRaw scenarios totals))
    (expanded : (growthRaw scenarios totals).expandBuckets (.ofQuery (growthQuery limit)) =
      .ok (growthTable scenarios totals))
    (computed : ComparisonMethod.absoluteDifference.column "total" (growthTable scenarios totals)
      (growthTable scenarios totals) (Shifter.ofComparison (.ofQuery (growthQuery limit)) "growth"
        (.ofList [(.ofName "scenario", "s-1")]) none (some .bucket) none) = .ok growths)
    (added : (growthTable scenarios totals).addColumn ⟨.measure "growth" (inferredType growths), growths⟩ =
      .ok (growthResult scenarios totals growths))
    (ordered : (growthResult scenarios totals growths).ordered [] =
      .ok (growthResult scenarios totals growths)) :
    (Session.execute scenariosEngine (.ofCache .disabled) (growthQuery limit)).2 =
      .ok (growthResult scenarios totals growths) := by
  have alone : (Session.ofCache .disabled).cacheFor (growthQuery limit) = .disabled := rfl
  rw [Session.execute_eq_result (growthQuery_planned limit), alone]
  obtain ⟨text, written⟩ : ∃ text, scenariosEngine.sql (growthStatement limit) = .ok text := by
    cases limit <;> exact ⟨_, rfl⟩
  have gathered (key : ScopeKey) : Plan.gather [growthTask limit key]
      ((Session.ofCache .disabled).runTasks scenariosEngine [growthTask limit key]).2 =
        .ok [(key, growthTable scenarios totals)] :=
    Session.gather_alone (List.cons_ne_nil _ _) written received expanded
  refine bind_eq_ok.mpr ⟨_, gathered _, ?_⟩
  generalize (Scope.ofQuery (growthQuery limit)).key = key
  have root : (growthPlan (.ofQuery (growthQuery limit)) key).rootScope = .ok (.ofQuery (growthQuery limit)) := by
    simp [growthPlan, Plan.rootScope, Plan.scope, Discovery.scope]
  have found : [(key, growthResult scenarios totals growths)].lookup
      (growthPlan (.ofQuery (growthQuery limit)) key).root =
        some (growthResult scenarios totals growths) := by simp [growthPlan]
  unfold Plan.result
  simp only [growthPlan_evaluated computed added, root, found, ok_bind]
  refine bind_eq_ok.mpr ⟨growthResult scenarios totals growths, rfl, ?_⟩
  exact mapError_eq_ok.mpr ordered

theorem growth_limited_executed :
    (Session.execute scenariosEngine (.ofCache .disabled) (growthQuery (some 2))).2 =
      .ok (growthResult [.str "base", .str "s1"] [.int 10, .int 12] [.null, .int 2]) := by
  refine growth_executed (growth_limited 0) rfl rfl rfl (bind_eq_ok.mpr ⟨_, rfl, ?_⟩)
  rw [List.mergeSort_of_pairwise (by decide +kernel)]
  rfl

theorem growth_whole_executed :
    (Session.execute scenariosEngine (.ofCache .disabled) (growthQuery none)).2 =
      .ok (growthResult [.str "base", .str "s1", .str "s2"] [.int 10, .int 12, .int 5]
        [.null, .int 2, .int (-7)]) := by
  refine growth_executed (growth_whole 0) rfl rfl rfl (bind_eq_ok.mpr ⟨_, rfl, ?_⟩)
  rw [List.mergeSort_of_pairwise (by decide +kernel)]
  rfl

theorem growthQuery_ownTable {limit : Option Nat} (scenarios totals : List Value) {table : Table}
    (received : ∀ number, scenariosEngine.receive number (growthStatement limit) =
      .ok (growthRaw scenarios totals))
    (expanded : (growthRaw scenarios totals).expandBuckets (.ofQuery (growthQuery limit)) =
      .ok (growthTable scenarios totals))
    (own : (growthQuery limit).OwnTable scenariosEngine table) : table = growthTable scenarios totals := by
  obtain ⟨planned, made, task, listed, -, number, answer, answered, found⟩ := own
  obtain rfl := Except.ok.inj ((growthQuery_planned limit).symm.trans made)
  obtain rfl := List.mem_singleton.mp listed
  obtain rfl := Except.ok.inj ((received number).symm.trans answered)
  exact Except.ok.inj (found.symm.trans expanded)

theorem growthQuery_keepsReferences : (growthQuery (some 2)).KeepsReferences scenariosEngine := by
  intro plan table whole built own wholeOwn
  obtain rfl := Except.ok.inj ((growthPlan_built _).symm.trans built)
  obtain rfl := growthQuery_ownTable _ _ growth_limited rfl own
  obtain rfl := growthQuery_ownTable _ _ growth_whole rfl wholeOwn
  intro label name method base positions listed known shifter shifter_eq point member target shifted
  obtain rfl : label = "growth" := by
    simp only [growthPlan, Plan.graph, List.mem_cons, List.not_mem_nil, or_false, PlanNode.mk.injEq] at listed
    rcases listed with ⟨-, rfl⟩ | ⟨-, rfl⟩
    · cases known
    · rfl
  cases known
  obtain rfl := Except.ok.inj (shifter_eq.symm.trans rfl)
  have points : (growthTable [.str "base", .str "s1"] [.int 10, .int 12]).points =
      [[.str "all", .str "base"], [.str "all", .str "s1"]] := rfl
  rw [points] at member
  simp only [List.mem_cons, List.not_mem_nil, or_false] at member
  -- Nothing stands before the first scenario, and the first is the reference of the second.
  rcases member with rfl | rfl
  · cases shifted
  · cases shifted
    decide

theorem growthQuery_markers (limit : Option Nat) : (growthQuery limit).MarkersApart scenariosEngine := by
  intro planned made task listed
  obtain rfl := Except.ok.inj ((growthQuery_planned limit).symm.trans made)
  obtain rfl := List.mem_singleton.mp listed
  exact nofun

theorem growthArena_counts {arena : Arena} (made : Arena.build (growthQuery (some 2)).measures = .ok arena) :
    arena.CountsRows := by
  obtain rfl := Except.ok.inj (made.symm.trans rfl)
  intro measure found
  cases found

/-- A limit keeps the rows and their growth, as it drops none that these refer to. -/
theorem Session.growth_rows_kept :
    let session := Session.ofCache .disabled
    let limited := growthResult [.str "base", .str "s1"] [.int 10, .int 12] [.null, .int 2]
    let whole := growthResult [.str "base", .str "s1", .str "s2"] [.int 10, .int 12, .int 5]
      [.null, .int 2, .int (-7)]
    (session.execute scenariosEngine (growthQuery (some 2))).2 = .ok limited ∧
      (session.execute scenariosEngine (growthQuery (some 2)).unrestricted).2 = .ok whole ∧
        limited.names = whole.names ∧ limited.rows.Subperm whole.rows := by
  have lacks : ∀ query, (Session.ofCache .disabled).Lacks query := lacks_of_disabled rfl
  refine ⟨growth_limited_executed, growth_whole_executed, ?_⟩
  exact restricted_rows_subperm (Engine.columnwise_ofRows ..) (Engine.dropsRows_ofRows ..)
    (List.forall_mem_cons.mpr ⟨fun _ => growthPlan_keys _,
      List.forall_mem_singleton.mpr fun _ => growthPlan_keys none⟩)
    (List.forall_mem_cons.mpr ⟨growthQuery_markers _,
      List.forall_mem_singleton.mpr (growthQuery_markers none)⟩)
    (fun _ => growthArena_counts) growthQuery_keepsReferences (lacks _) (lacks _)
    growth_limited_executed growth_whole_executed

end CubeQuery
