import CubeQuery.Plan.Plan
import CubeQuery.Proofs.Graph.Layers
import CubeQuery.Proofs.Plan.Termination

/-! What a plan that was built can be relied on for: each of its nodes depends on exactly what its
measure reads in its scope, and all of that is planned. -/

namespace CubeQuery

open Steps

/-! ### The start of a discovery -/

theorem Graph.foldl_addNode_spec {ν α : Type} [DecidableEq ν] (node : α → ν) (items : List α)
    {graph : Graph ν} (wellFormed : graph.WellFormed) :
    (items.foldl (fun graph item => graph.addNode (node item)) graph).WellFormed ∧
      (∀ index other, (items.foldl (fun graph item => graph.addNode (node item)) graph).Edge index other ↔
        graph.Edge index other) ∧
      ∀ other, other ∈ (items.foldl (fun graph item => graph.addNode (node item)) graph).nodes ↔
        other ∈ graph.nodes ∨ ∃ item ∈ items, other = node item := by
  induction items generalizing graph with
  | nil => exact ⟨wellFormed, fun _ _ => Iff.rfl, by simp⟩
  | cons item rest ih =>
    obtain ⟨grownFormed, edges, nodes⟩ := ih (wellFormed.addNode (node item))
    refine ⟨grownFormed, fun index other => ?_, fun other => ?_⟩
    · rw [List.foldl_cons, edges, Graph.edge_addNode]
    · rw [List.foldl_cons, nodes, Graph.mem_addNode]
      simp [or_assoc]

namespace Plan

theorem requestedLabels_spec {arena : Arena} {measures : List Measure} {found labels : List String}
    (requested : requestedLabels arena measures found = .ok labels)
    (known : ∀ label ∈ found, ∃ measure, arena.find? label = some measure) :
    (∀ label, label ∈ labels ↔ label ∈ found ∨ label ∈ measures.map Measure.label) ∧
      ∀ label ∈ labels, ∃ measure, arena.find? label = some measure := by
  induction measures generalizing found with
  | nil =>
    obtain rfl := Except.ok.inj requested
    exact ⟨by simp, known⟩
  | cons measure rest ih =>
    obtain ⟨target, targetFound, later⟩ := bind_eq_ok.mp requested
    have targetKnown := Arena.get_eq_ok.mp targetFound
    by_cases repeated : measure.label ∈ found
    · rw [if_pos (List.contains_iff_mem.mpr repeated)] at later
      obtain ⟨labels_iff, all⟩ := ih later known
      refine ⟨fun label => ?_, all⟩
      rw [labels_iff, List.map_cons, List.mem_cons]
      constructor
      · rintro (old | new)
        · exact .inl old
        · exact .inr (.inr new)
      · rintro (old | rfl | new)
        · exact .inl old
        · exact .inl repeated
        · exact .inr new
    · rw [if_neg (fun listed => repeated (List.contains_iff_mem.mp listed))] at later
      obtain ⟨labels_iff, all⟩ := ih later (by
        intro label listed
        rcases List.mem_append.mp listed with old | new
        · exact known label old
        · rw [List.mem_singleton.mp new]
          exact ⟨target, targetKnown⟩)
      refine ⟨fun label => ?_, all⟩
      rw [labels_iff]
      simp [or_assoc]

/-- What a plan is built to be. -/
structure WellBuilt (plan : Plan) (query : Query) : Prop where
  closed : plan.arena.Closed
  defines : plan.arena.Defines
  acyclic : plan.graph.checkAcyclic PlanNode.name = .ok ()
  wellFormed : plan.graph.WellFormed
  root : plan.root = (Scope.ofQuery query).key
  rootScope : plan.discovery.scopes.lookup plan.root = some (Scope.ofQuery query)
  rootFirst : ∃ others, plan.discovery.scopes = (plan.root, .ofQuery query) :: others
  keyed : ∀ {key scope}, plan.discovery.scopes.lookup key = some scope → scope.key = key
  derived : ∀ {key scope}, plan.discovery.scopes.lookup key = some scope →
    scope.DerivedFrom plan.arena (.ofQuery query)
  requested : ∀ label, label ∈ plan.requested ↔ label ∈ query.measures.map Measure.label
  rooted : ∀ label ∈ plan.requested, ⟨plan.root, label⟩ ∈ plan.graph.nodes
  reads : ∀ node ∈ plan.graph.nodes, ∃ dependencies,
    plan.discovery.Reads plan.arena node dependencies ∧
      ∀ other, other ∈ plan.graph.dependencies node ↔
        ∃ dependency ∈ dependencies, other = Discovery.nodeOf dependency
  planned : ∀ node ∈ plan.graph.nodes, ∀ other ∈ plan.graph.dependencies node, other ∈ plan.graph.nodes

/-- The discovery that a query starts with: its scope, and its measures in that scope. -/
def start (scope : Scope) (requested : List String) : Discovery :=
  ⟨[(scope.key, scope)], requested.foldl (fun graph label => graph.addNode ⟨scope.key, label⟩) .empty⟩

theorem lookup_start {scope other : Scope} {requested : List String} {key : ScopeKey}
    (found : (start scope requested).scopes.lookup key = some other) : key = scope.key ∧ other = scope := by
  unfold start at found
  rw [List.lookup_cons] at found
  by_cases same : key = scope.key
  · simp [same] at found
    exact ⟨same, found.symm⟩
  · rw [beq_eq_false_iff_ne.mpr same] at found
    cases found

theorem mem_nodes_start {scope : Scope} {requested : List String} {node : PlanNode} :
    node ∈ (start scope requested).graph.nodes ↔ ∃ label ∈ requested, node = ⟨scope.key, label⟩ := by
  refine ((Graph.foldl_addNode_spec (fun label => (⟨scope.key, label⟩ : PlanNode)) requested
    Graph.wellFormed_empty).2.2 node).trans ?_
  simp [Graph.empty]

theorem start_running {arena : Arena} (scope : Scope) {requested : List String}
    (known : ∀ label ∈ requested, ∃ measure, arena.find? label = some measure) :
    (start scope requested).Running arena scope 0 := by
  obtain ⟨wellFormed, edges, -⟩ := Graph.foldl_addNode_spec
    (fun label => (⟨scope.key, label⟩ : PlanNode)) requested Graph.wellFormed_empty
  refine ⟨⟨wellFormed, ?_, ?_, ?_, ?_, ?_⟩, ?_⟩
  · intro key other found
    obtain ⟨rfl, rfl⟩ := lookup_start found
    rfl
  · intro node listed
    obtain ⟨label, -, rfl⟩ := mem_nodes_start.mp listed
    exact ⟨scope, by simp [start]⟩
  · intro node listed
    obtain ⟨label, wanted, rfl⟩ := mem_nodes_start.mp listed
    exact known label wanted
  · intro index node below
    exact absurd below (Nat.not_lt_zero _)
  · intro index other edge
    exact absurd ((edges index other).mp edge) List.not_mem_nil
  · intro key other found
    obtain ⟨-, rfl⟩ := lookup_start found
    exact other.derivedFrom_root arena

/-- The steps of a build. -/
theorem build_eq_ok {query : Query} {plan : Plan} :
    build query = .ok plan ↔
      query.table.isSome ≠ query.subQuery.isSome ∧
        Arena.build query.measures = .ok plan.arena ∧
        requestedLabels plan.arena query.measures [] = .ok plan.requested ∧
        plan.root = (Scope.ofQuery query).key ∧
        (start (Scope.ofQuery query) plan.requested).run plan.arena
          (Discovery.nodeBound plan.arena (Scope.ofQuery query) + 1) 0 = .ok plan.discovery ∧
        plan.graph.checkAcyclic PlanNode.name = .ok () := by
  unfold build
  by_cases sources : query.table.isSome = query.subQuery.isSome
  · simp [sources]
  · rw [if_neg (by simpa using sources)]
    constructor
    · intro built
      obtain ⟨arena, arenaBuilt, built⟩ := bind_eq_ok.mp built
      obtain ⟨requested, requested_eq, built⟩ := bind_eq_ok.mp built
      obtain ⟨discovery, ran, built⟩ := bind_eq_ok.mp built
      obtain ⟨_, passed, built⟩ := bind_eq_ok.mp built
      obtain rfl := Except.ok.inj built
      exact ⟨sources, arenaBuilt, requested_eq, rfl, ran, passed⟩
    · rintro ⟨-, arenaBuilt, requested_eq, root_eq, ran, passed⟩
      refine bind_eq_ok.mpr ⟨plan.arena, arenaBuilt, bind_eq_ok.mpr ⟨plan.requested, requested_eq,
        bind_eq_ok.mpr ⟨plan.discovery, ran, bind_eq_ok.mpr ⟨(), passed, ?_⟩⟩⟩⟩
      rw [← root_eq]
      rfl

theorem wellBuilt_of_build {query : Query} {plan : Plan} (built : build query = .ok plan) :
    plan.WellBuilt query := by
  obtain ⟨-, arenaBuilt, requested_eq, root_eq, ran, passed⟩ := build_eq_ok.mp built
  obtain ⟨root, arena, requested, discovery⟩ := plan
  simp only at arenaBuilt requested_eq root_eq ran
  subst root_eq
  have closed := Arena.closed_of_build arenaBuilt
  obtain ⟨labels_iff, known⟩ := requestedLabels_spec requested_eq (by simp)
  have running : (start (Scope.ofQuery query) requested).Running arena (Scope.ofQuery query) 0 :=
    start_running _ known
  obtain ⟨⟨last, finished, all⟩, kept, included⟩ := running.run closed (by omega) ran
  have readsOf : ∀ node ∈ discovery.graph.nodes, ∃ dependencies,
      discovery.Reads arena node dependencies ∧
        (∀ dependency ∈ dependencies, Discovery.nodeOf dependency ∈ discovery.graph.nodes) ∧
        ∀ other, other ∈ discovery.graph.dependencies node ↔
          ∃ dependency ∈ dependencies, other = Discovery.nodeOf dependency := by
    intro node listed
    obtain ⟨index, inside, stands⟩ := List.getElem_of_mem listed
    have placed : discovery.graph.nodes[index]? = some node :=
      List.getElem?_eq_some_iff.mpr ⟨inside, stands⟩
    obtain ⟨dependencies, reads, present, edges⟩ :=
      finished.expanded.reads (Nat.lt_of_lt_of_le inside all) placed
    refine ⟨dependencies, reads, present, fun other => ?_⟩
    rw [Graph.mem_dependencies finished.expanded.wellFormed]
    constructor
    · rintro ⟨first, second, firstStands, secondStands, edge⟩
      rw [finished.expanded.wellFormed.index_unique firstStands placed] at edge
      obtain ⟨dependency, member, same⟩ := (edges second).mp edge
      exact ⟨dependency, member, Option.some.inj (secondStands.symm.trans same)⟩
    · rintro ⟨dependency, member, rfl⟩
      obtain ⟨second, secondStands⟩ := List.mem_iff_getElem?.mp (present dependency member)
      exact ⟨index, second, placed, secondStands, (edges second).mpr ⟨dependency, member, secondStands⟩⟩
  refine ⟨closed, Arena.defines_of_build arenaBuilt, passed, finished.expanded.wellFormed, rfl, ?_, ?_,
    finished.expanded.keyed, finished.derived, ?_, ?_, ?_, ?_⟩
  · exact kept (by simp [start])
  · obtain ⟨others, scopes_eq⟩ := Discovery.prefix_run ran
    exact ⟨others, scopes_eq.symm⟩
  · intro label
    rw [labels_iff]
    simp
  · exact fun label wanted => included (mem_nodes_start.mpr ⟨label, wanted, rfl⟩)
  · intro node listed
    obtain ⟨dependencies, reads, -, same⟩ := readsOf node listed
    exact ⟨dependencies, reads, same⟩
  · intro node listed other dependent
    obtain ⟨dependencies, -, present, same⟩ := readsOf node listed
    obtain ⟨dependency, member, rfl⟩ := (same other).mp dependent
    exact present dependency member

/-! ### Nodes -/

variable {plan : Plan} {query : Query}

theorem WellBuilt.find?_measure (built : plan.WellBuilt query) {node : PlanNode}
    (listed : node ∈ plan.graph.nodes) : ∃ measure, plan.arena.find? node.measure = some measure := by
  obtain ⟨-, ⟨-, measure, -, found, -⟩, -⟩ := built.reads node listed
  exact ⟨measure, found⟩

theorem WellBuilt.mem_dependencies (built : plan.WellBuilt query) {node : PlanNode}
    (listed : node ∈ plan.graph.nodes) {scope : Scope} {measure : Measure}
    (scopeFound : plan.discovery.scopes.lookup node.scope = some scope)
    (measureFound : plan.arena.find? node.measure = some measure) :
    ∃ dependencies, measure.dependencies scope = .ok dependencies ∧
      ∀ other, other ∈ plan.graph.dependencies node ↔
        ∃ dependency ∈ dependencies, other = Discovery.nodeOf dependency := by
  obtain ⟨dependencies, ⟨known, knownMeasure, knownFound, knownMeasureFound, read⟩, same⟩ :=
    built.reads node listed
  obtain rfl := Option.some.inj (scopeFound.symm.trans knownFound)
  obtain rfl := Option.some.inj (measureFound.symm.trans knownMeasureFound)
  exact ⟨dependencies, read, same⟩

/-! ### Measures of the database -/

theorem WellBuilt.databaseMeasures_spec (built : plan.WellBuilt query) (key : ScopeKey) :
    ∃ measures, plan.databaseMeasures key = .ok measures ∧ measures ≠ [] ∧
      ∀ node ∈ plan.graph.nodes, node.scope = key → ∀ measure,
        plan.arena.find? node.measure = some measure → measure.isPrimitive = true →
          measure ∈ measures := by
  obtain ⟨all, all_eq⟩ : ∃ all, ((plan.graph.nodes.filter (·.scope = key)).mapM fun node =>
      plan.arena.get node.measure) = .ok all := by
    refine exists_mapM fun node listed => ?_
    obtain ⟨measure, found⟩ := built.find?_measure (List.mem_of_mem_filter listed)
    exact ⟨measure, Arena.get_eq_ok.mpr found⟩
  have member : ∀ node ∈ plan.graph.nodes, node.scope = key → ∀ measure,
      plan.arena.find? node.measure = some measure → measure.isPrimitive = true →
        measure ∈ all.filter Measure.isPrimitive := by
    intro node listed here measure found primitive
    obtain ⟨result, resultListed, got⟩ := mem_of_mapM all_eq
      (List.mem_filter.mpr ⟨listed, decide_eq_true here⟩)
    rw [Arena.get_eq_ok.mpr found] at got
    obtain rfl := Except.ok.inj got
    exact List.mem_filter.mpr ⟨resultListed, primitive⟩
  unfold databaseMeasures
  rw [all_eq, ok_bind]
  cases stored : all.filter Measure.isPrimitive with
  | nil =>
    rw [stored] at member
    refine ⟨[.defaultCount], rfl, by simp, fun node listed here measure found primitive => ?_⟩
    exact absurd (member node listed here measure found primitive) List.not_mem_nil
  | cons first rest =>
    rw [stored] at member
    exact ⟨first :: rest, rfl, by simp, member⟩

/-- What the database computes for a scope is planned there, or it counts the rows alone. -/
theorem databaseMeasures_cases {key : ScopeKey} {measures : List Measure}
    (asked : plan.databaseMeasures key = .ok measures) : measures = [.defaultCount] ∨
      ∀ measure ∈ measures, measure.isPrimitive = true ∧
        ∃ node ∈ plan.graph.nodes, node.scope = key ∧ plan.arena.find? node.measure = some measure := by
  unfold databaseMeasures at asked
  obtain ⟨all, all_eq, asked⟩ := bind_eq_ok.mp asked
  cases stored : all.filter Measure.isPrimitive with
  | nil =>
    rw [stored] at asked
    exact .inl (Except.ok.inj asked).symm
  | cons first rest =>
    rw [stored] at asked
    obtain rfl := Except.ok.inj asked
    right
    intro measure listed
    rw [← stored] at listed
    obtain ⟨member, primitive⟩ := List.mem_filter.mp listed
    obtain ⟨node, placed, got⟩ := exists_of_mem_mapM all_eq member
    obtain ⟨inside, here⟩ := List.mem_filter.mp placed
    exact ⟨primitive, node, inside, of_decide_eq_true here, Arena.get_eq_ok.mp got⟩

end Plan

end CubeQuery
