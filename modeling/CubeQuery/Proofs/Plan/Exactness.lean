import CubeQuery.Proofs.Plan.Tasks

/-! A plan holds what its query needs and nothing else. The loop that finds it ends by itself for every
query, also where measures refer to each other in a circle, and its nodes are the least set that has the
measures asked for and is closed under what measures read. -/

namespace CubeQuery

open Steps

/-- A measure in a scope reads another. -/
def Arena.Reads (arena : Arena) (consumer dependency : Scope × String) : Prop :=
  ∃ measure dependencies, arena.find? consumer.2 = some measure ∧
    measure.dependencies consumer.1 = .ok dependencies ∧ dependency ∈ dependencies

/-- What a query needs: the measures that it asks for in its own scope, and whatever a needed measure
reads. -/
inductive Query.Needs (query : Query) (arena : Arena) : Scope × String → Prop where
  | asked {measure : Measure} (listed : measure ∈ query.measures) :
    query.Needs arena (.ofQuery query, measure.label)
  | read {consumer dependency : Scope × String} (needed : query.Needs arena consumer)
    (reads : arena.Reads consumer dependency) : query.Needs arena dependency

/-- No two scopes that a query needs have one digest. -/
def Query.DigestsTellApart (query : Query) (arena : Arena) : Prop :=
  ∀ {pair other}, query.Needs arena pair → query.Needs arena other →
    pair.1.key = other.1.key → pair.1 = other.1

theorem Query.Needs.root {query : Query} {arena : Arena} {pair : Scope × String}
    (needed : query.Needs arena pair) : ∃ label, query.Needs arena (.ofQuery query, label) := by
  induction needed with
  | asked listed => exact ⟨_, .asked listed⟩
  | read _ _ ih => exact ih

namespace Discovery

/-! ### The end of a discovery -/

/-- How a discovery goes on from a place, without a bound: it ends where no node is left, or at the
first error. -/
inductive Ends (arena : Arena) : Nat → Discovery → Except QueryError Discovery → Prop where
  | done {place : Nat} {discovery : Discovery} (last : discovery.graph.nodes[place]? = none) :
    Ends arena place discovery (.ok discovery)
  | failed {place : Nat} {discovery : Discovery} {node : PlanNode} {error : QueryError}
    (here : discovery.graph.nodes[place]? = some node)
    (refused : discovery.expand arena node = .error error) : Ends arena place discovery (.error error)
  | next {place : Nat} {discovery grown : Discovery} {node : PlanNode}
    {result : Except QueryError Discovery} (here : discovery.graph.nodes[place]? = some node)
    (step : discovery.expand arena node = .ok grown) (rest : Ends arena (place + 1) grown result) :
    Ends arena place discovery result

theorem run_next {arena : Arena} {bound place : Nat} {discovery grown : Discovery} {node : PlanNode}
    (here : discovery.graph.nodes[place]? = some node) (step : discovery.expand arena node = .ok grown) :
    run arena (bound + 1) place discovery = run arena bound (place + 1) grown := by
  rw [run, here]
  dsimp only
  rw [step]
  rfl

/-- A bound that is large enough is never met, whether the discovery fails or not. -/
theorem Running.ends {arena : Arena} {root : Scope} (closed : arena.Closed) {bound place : Nat}
    {discovery : Discovery} (running : discovery.Running arena root place)
    (enough : nodeBound arena root < place + bound) :
    Ends arena place discovery (Discovery.run arena bound place discovery) := by
  induction bound generalizing place discovery with
  | zero =>
    have few := running.length_nodes_le
    exact .done (List.getElem?_eq_none_iff.mpr (by omega))
  | succ bound ih =>
    unfold Discovery.run
    cases here : discovery.graph.nodes[place]? with
    | none => exact .done here
    | some node =>
      dsimp only
      cases step : discovery.expand arena node with
      | error error => exact .failed here step
      | ok grown => exact .next here step (ih (running.step closed here step).1 (by omega))

/-! ### Nothing twice -/

theorem run_invariant {Holds : Discovery → Prop}
    (kept : ∀ node {discovery} dependency, Holds discovery →
      Holds (addDependency node discovery dependency))
    {arena : Arena} {bound place : Nat} {before after : Discovery}
    (ran : run arena bound place before = .ok after) (start : Holds before) : Holds after := by
  induction bound generalizing place before with
  | zero =>
    obtain rfl := Except.ok.inj ran
    exact start
  | succ bound ih =>
    unfold Discovery.run at ran
    split at ran
    · obtain rfl := Except.ok.inj ran
      exact start
    · obtain ⟨grown, step, rest⟩ := bind_eq_ok.mp ran
      unfold Discovery.expand at step
      obtain ⟨_, -, step⟩ := bind_eq_ok.mp step
      obtain ⟨_, -, step⟩ := bind_eq_ok.mp step
      obtain ⟨dependencies, -, step⟩ := bind_eq_ok.mp step
      obtain rfl := Except.ok.inj step
      refine ih rest ?_
      exact List.foldlRecOn dependencies (addDependency _) start fun _ holds _ _ => kept _ _ holds

/-- No scope is listed twice, and no edge. -/
structure Tidy (discovery : Discovery) : Prop where
  keys : (discovery.scopes.map (·.1)).Nodup
  edges : discovery.graph.edges.Nodup

theorem keys_addScope {discovery : Discovery} (distinct : (discovery.scopes.map (·.1)).Nodup)
    (key : ScopeKey) (scope : Scope) : ((discovery.addScope key scope).scopes.map (·.1)).Nodup := by
  unfold addScope
  split
  · exact distinct
  · next absent =>
    rw [List.map_append]
    refine List.nodup_append.mpr ⟨distinct, List.nodup_singleton _, ?_⟩
    rintro other listed added single rfl
    rw [List.mem_singleton.mp single] at listed
    exact absent (lookup_isSome_iff.mpr listed)

theorem edges_addDependency {graph : Graph PlanNode} (distinct : graph.edges.Nodup)
    (consumer dependency : PlanNode) : (graph.addDependency consumer dependency).edges.Nodup := by
  have kept (graph : Graph PlanNode) (node : PlanNode) : (graph.addNode node).edges = graph.edges := by
    unfold Graph.addNode
    split <;> rfl
  unfold Graph.addDependency
  dsimp only
  split
  · unfold Graph.addEdge
    split
    · rwa [kept, kept]
    · next absent =>
      refine List.nodup_append.mpr ⟨by rwa [kept, kept], List.nodup_singleton _, ?_⟩
      rintro edge listed added single rfl
      exact absent (List.mem_singleton.mp single ▸ listed)
  · rwa [kept, kept]

theorem Tidy.addDependency {discovery : Discovery} (tidy : discovery.Tidy) (node : PlanNode)
    (dependency : Scope × String) : (addDependency node discovery dependency).Tidy where
  keys := keys_addScope tidy.keys _ _
  edges := by
    unfold Discovery.addDependency
    dsimp only
    rw [addScope_graph]
    exact edges_addDependency tidy.edges _ _

/-! ### Nothing that is not needed -/

/-- Every node stands for a measure that is needed, and every scope but the first has a node. -/
structure Minimal (arena : Arena) (query : Query) (discovery : Discovery) : Prop where
  needed : ∀ node ∈ discovery.graph.nodes, ∃ scope, discovery.scopes.lookup node.scope = some scope ∧
    query.Needs arena (scope, node.measure)
  used : ∀ {key scope}, discovery.scopes.lookup key = some scope → scope = .ofQuery query ∨
    ∃ label, query.Needs arena (scope, label) ∧ ⟨key, label⟩ ∈ discovery.graph.nodes

theorem Minimal.expand {arena : Arena} {query : Query} {before after : Discovery} {node : PlanNode}
    {dependencies : List (Scope × String)} (apart : query.DigestsTellApart arena)
    (keyed : ∀ {key scope}, before.scopes.lookup key = some scope → scope.key = key)
    (minimal : before.Minimal arena query) (listed : node ∈ before.graph.nodes)
    (reads : before.Reads arena node dependencies)
    (expands : before.Expands after node dependencies) : after.Minimal arena query := by
  obtain ⟨scope, scopeFound, needed⟩ := minimal.needed node listed
  have neededNext : ∀ dependency ∈ dependencies, query.Needs arena dependency := by
    obtain ⟨known, measure, knownFound, measureFound, read⟩ := reads
    obtain rfl := Option.some.inj (scopeFound.symm.trans knownFound)
    exact fun dependency member => needed.read ⟨measure, dependencies, measureFound, read, member⟩
  obtain ⟨rootLabel, rootNeeded⟩ := needed.root
  refine ⟨fun other otherListed => ?_, fun found => ?_⟩
  · rcases (expands.nodes other).mp otherListed with old | ⟨dependency, member, rfl⟩
    · obtain ⟨known, knownFound, knownNeeded⟩ := minimal.needed other old
      exact ⟨known, expands.known knownFound, knownNeeded⟩
    · have dependencyNeeded := neededNext dependency member
      obtain ⟨known, knownFound⟩ := expands.covers dependency member
      -- What is known under the key of the dependency is its scope, for keys tell scopes apart.
      have same : known = dependency.1 := by
        rcases expands.found knownFound with old | ⟨twin, twinMember, key_eq, rfl⟩
        · rcases minimal.used old with rfl | ⟨label, knownNeeded, -⟩
          · exact apart rootNeeded dependencyNeeded (keyed old)
          · exact apart knownNeeded dependencyNeeded (keyed old)
        · exact apart (neededNext twin twinMember) dependencyNeeded key_eq.symm
      exact ⟨dependency.1, same ▸ knownFound, dependencyNeeded⟩
  · rcases expands.found found with old | ⟨dependency, member, rfl, rfl⟩
    · rcases minimal.used old with root | ⟨label, knownNeeded, placed⟩
      · exact .inl root
      · exact .inr ⟨label, knownNeeded, expands.kept.subset placed⟩
    · exact .inr ⟨dependency.2, neededNext dependency member,
        (expands.nodes _).mpr (.inr ⟨dependency, member, rfl⟩)⟩

theorem Minimal.run {arena : Arena} {query : Query} {root : Scope} (closed : arena.Closed)
    (apart : query.DigestsTellApart arena) {bound place : Nat} {before after : Discovery}
    (running : before.Running arena root place) (minimal : before.Minimal arena query)
    (ran : run arena bound place before = .ok after) : after.Minimal arena query :=
  running.keeps closed _ (fun running listed reads expands minimal =>
    minimal.expand apart running.expanded.keyed listed reads expands) ran minimal

end Discovery

namespace Plan

theorem start_tidy (scope : Scope) (requested : List String) : (start scope requested).Tidy where
  keys := List.nodup_singleton _
  edges := by
    have kept (graph : Graph PlanNode) : (requested.foldl (fun graph label =>
        graph.addNode ⟨scope.key, label⟩) graph).edges = graph.edges := by
      induction requested generalizing graph with
      | nil => rfl
      | cons label rest ih =>
        rw [List.foldl_cons, ih]
        unfold Graph.addNode
        split <;> rfl
    unfold start
    rw [kept]
    exact List.nodup_nil

/-- No scope of a plan is listed twice, and no edge. -/
theorem tidy_of_build {query : Query} {plan : Plan} (built : build query = .ok plan) :
    plan.discovery.Tidy := by
  obtain ⟨-, -, -, -, ran, -⟩ := build_eq_ok.mp built
  exact Discovery.run_invariant (fun node _ dependency tidy => tidy.addDependency node dependency) ran
    (start_tidy _ _)

theorem start_minimal {arena : Arena} {query : Query} {requested : List String}
    (asked : requested ⊆ query.measures.map Measure.label) :
    (start (.ofQuery query) requested).Minimal arena query := by
  refine ⟨fun node listed => ?_, fun found => .inl (lookup_start found).2⟩
  obtain ⟨label, wanted, rfl⟩ := mem_nodes_start.mp listed
  obtain ⟨measure, measured, rfl⟩ := List.mem_map.mp (asked wanted)
  exact ⟨_, by simp [start], .asked measured⟩

/-- A plan that holds what its query needs, each once, and nothing else. -/
structure Exact (plan : Plan) (query : Query) : Prop where
  nodesOnce : plan.graph.nodes.Nodup
  nodes : ∀ node, node ∈ plan.graph.nodes ↔
    ∃ pair, query.Needs plan.arena pair ∧ node = Discovery.nodeOf pair
  /-- A node stands for one pair: its key is that of one scope. -/
  scopes : ∀ pair, query.Needs plan.arena pair → plan.scope pair.1.key = .ok pair.1
  edgesOnce : plan.graph.edges.Nodup
  edges : ∀ index other, (index, other) ∈ plan.graph.edges ↔ ∃ consumer dependency,
    query.Needs plan.arena consumer ∧ plan.arena.Reads consumer dependency ∧
      plan.graph.nodes[index]? = some (Discovery.nodeOf consumer) ∧
      plan.graph.nodes[other]? = some (Discovery.nodeOf dependency)
  keysOnce : plan.scopeKeys.Nodup
  rootFirst : plan.scopeKeys.head? = some (Scope.ofQuery query).key
  keys : ∀ key, key ∈ plan.scopeKeys ↔
    key = (Scope.ofQuery query).key ∨ ∃ node ∈ plan.graph.nodes, node.scope = key
  statements : ∀ (engine : Engine) texts, engine.statements query = .ok texts →
    texts.length = plan.scopeKeys.length

variable {plan : Plan} {query : Query}

theorem WellBuilt.planned_of_needs (built : plan.WellBuilt query)
    (apart : query.DigestsTellApart plan.arena) (minimal : plan.discovery.Minimal plan.arena query)
    {pair : Scope × String} (needed : query.Needs plan.arena pair) :
    Discovery.nodeOf pair ∈ plan.graph.nodes ∧
      plan.discovery.scopes.lookup pair.1.key = some pair.1 := by
  induction needed with
  | asked listed =>
    have wanted := (built.requested _).mpr (List.mem_map_of_mem listed)
    refine ⟨?_, built.root ▸ built.rootScope⟩
    unfold Discovery.nodeOf
    exact built.root ▸ built.rooted _ wanted
  | @read consumer dependency needed reads ih =>
    obtain ⟨listed, scopeFound⟩ := ih
    have dependencyNeeded := needed.read reads
    obtain ⟨measure, dependencies, measureFound, read, member⟩ := reads
    obtain ⟨same, sameRead, dependents⟩ := built.mem_dependencies listed scopeFound measureFound
    obtain rfl := Except.ok.inj (read.symm.trans sameRead)
    have dependencyListed := built.planned _ listed _ ((dependents _).mpr ⟨dependency, member, rfl⟩)
    obtain ⟨known, knownFound, knownNeeded⟩ := minimal.needed _ dependencyListed
    have scope_eq : known = dependency.1 :=
      apart knownNeeded dependencyNeeded (built.keyed knownFound)
    rw [scope_eq] at knownFound
    exact ⟨dependencyListed, knownFound⟩

/-- The dependencies of a needed node are what its measure reads. -/
theorem WellBuilt.mem_dependencies_of_needs (built : plan.WellBuilt query)
    (apart : query.DigestsTellApart plan.arena) (minimal : plan.discovery.Minimal plan.arena query)
    {consumer : Scope × String} (needed : query.Needs plan.arena consumer) (node : PlanNode) :
    node ∈ plan.graph.dependencies (Discovery.nodeOf consumer) ↔
      ∃ dependency, plan.arena.Reads consumer dependency ∧ node = Discovery.nodeOf dependency := by
  obtain ⟨listed, scopeFound⟩ := built.planned_of_needs apart minimal needed
  obtain ⟨measure, measureFound⟩ := built.find?_measure listed
  obtain ⟨dependencies, read, dependents⟩ := built.mem_dependencies listed scopeFound measureFound
  rw [dependents]
  constructor
  · rintro ⟨dependency, member, rfl⟩
    exact ⟨dependency, ⟨measure, dependencies, measureFound, read, member⟩, rfl⟩
  · rintro ⟨dependency, ⟨other, others, otherFound, otherRead, member⟩, rfl⟩
    obtain rfl := Option.some.inj (measureFound.symm.trans otherFound)
    obtain rfl := Except.ok.inj (read.symm.trans otherRead)
    exact ⟨dependency, member, rfl⟩

theorem WellBuilt.edges (built : plan.WellBuilt query) (apart : query.DigestsTellApart plan.arena)
    (minimal : plan.discovery.Minimal plan.arena query) (index other : Nat) :
    (index, other) ∈ plan.graph.edges ↔ ∃ consumer dependency,
      query.Needs plan.arena consumer ∧ plan.arena.Reads consumer dependency ∧
        plan.graph.nodes[index]? = some (Discovery.nodeOf consumer) ∧
        plan.graph.nodes[other]? = some (Discovery.nodeOf dependency) := by
  constructor
  · intro edge
    obtain ⟨indexInside, otherInside⟩ := built.wellFormed.inside edge
    have stands := List.getElem?_eq_getElem indexInside
    have otherStands := List.getElem?_eq_getElem otherInside
    have listed := List.mem_of_getElem? stands
    obtain ⟨scope, scopeFound, needed⟩ := minimal.needed _ listed
    have node_eq : plan.graph.nodes[index] = Discovery.nodeOf (scope, plan.graph.nodes[index].measure) := by
      unfold Discovery.nodeOf
      rw [built.keyed scopeFound]
    have dependent := (Graph.mem_dependencies built.wellFormed).mpr
      ⟨index, other, stands, otherStands, edge⟩
    rw [node_eq] at dependent
    obtain ⟨dependency, reads, target⟩ :=
      (built.mem_dependencies_of_needs apart minimal needed _).mp dependent
    exact ⟨_, dependency, needed, reads, stands.trans (congrArg some node_eq),
      otherStands.trans (congrArg some target)⟩
  · rintro ⟨consumer, dependency, needed, reads, stands, otherStands⟩
    have dependent := (built.mem_dependencies_of_needs apart minimal needed _).mpr
      ⟨dependency, reads, rfl⟩
    obtain ⟨first, second, firstStands, secondStands, edge⟩ :=
      (Graph.mem_dependencies built.wellFormed).mp dependent
    rw [built.wellFormed.index_unique stands firstStands,
      built.wellFormed.index_unique otherStands secondStands]
    exact edge

theorem WellBuilt.mem_scopeKeys (built : plan.WellBuilt query)
    (minimal : plan.discovery.Minimal plan.arena query) (key : ScopeKey) :
    key ∈ plan.scopeKeys ↔
      key = (Scope.ofQuery query).key ∨ ∃ node ∈ plan.graph.nodes, node.scope = key := by
  unfold Plan.scopeKeys
  rw [← Discovery.lookup_isSome_iff, Option.isSome_iff_exists]
  constructor
  · rintro ⟨scope, found⟩
    rcases minimal.used found with rfl | ⟨label, -, placed⟩
    · exact .inl (built.keyed found).symm
    · exact .inr ⟨_, placed, rfl⟩
  · rintro (rfl | ⟨node, listed, rfl⟩)
    · exact ⟨_, built.root ▸ built.rootScope⟩
    · obtain ⟨scope, found, -⟩ := minimal.needed node listed
      exact ⟨scope, found⟩

/-- The loop of a build ends for every query. If the build succeeds, the plan holds what the query
needs, each once, and nothing else, as long as digests tell scopes apart. -/
theorem discovery_exact (query : Query) :
    (∀ arena requested, Arena.build query.measures = .ok arena →
      requestedLabels arena query.measures [] = .ok requested →
      Discovery.Ends arena 0 (start (.ofQuery query) requested)
        ((start (.ofQuery query) requested).run arena
          (Discovery.nodeBound arena (.ofQuery query) + 1) 0)) ∧
    ∀ plan, build query = .ok plan → query.DigestsTellApart plan.arena → plan.Exact query := by
  refine ⟨fun arena requested arenaBuilt requested_eq => ?_, fun plan planBuilt apart => ?_⟩
  · have known := (requestedLabels_spec requested_eq (by simp)).2
    exact (start_running _ known).ends (Arena.closed_of_build arenaBuilt) (by omega)
  · have built := wellBuilt_of_build planBuilt
    obtain ⟨-, -, requested_eq, -, ran, -⟩ := build_eq_ok.mp planBuilt
    have known := (requestedLabels_spec requested_eq (by simp)).2
    have minimal : plan.discovery.Minimal plan.arena query :=
      .run built.closed apart (start_running _ known)
        (start_minimal fun label wanted => (built.requested label).mp wanted) ran
    have tidy := tidy_of_build planBuilt
    refine ⟨built.wellFormed.distinct, fun node => ⟨fun listed => ?_, ?_⟩, fun pair needed => ?_,
      tidy.edges, built.edges apart minimal, tidy.keys, ?_, built.mem_scopeKeys minimal, ?_⟩
    · obtain ⟨scope, scopeFound, needed⟩ := minimal.needed node listed
      refine ⟨_, needed, ?_⟩
      unfold Discovery.nodeOf
      rw [built.keyed scopeFound]
    · rintro ⟨pair, needed, rfl⟩
      exact (built.planned_of_needs apart minimal needed).1
    · exact Discovery.scope_eq_ok.mpr (built.planned_of_needs apart minimal needed).2
    · obtain ⟨others, scopes_eq⟩ := built.rootFirst
      unfold Plan.scopeKeys
      rw [scopes_eq, List.map_cons, List.head?_cons, built.root]
    · intro engine texts written
      unfold Engine.statements at written
      obtain ⟨again, againBuilt, written⟩ := bind_eq_ok.mp written
      obtain rfl := Except.ok.inj (planBuilt.symm.trans againBuilt)
      obtain ⟨tasks, tasks_eq, written⟩ := bind_eq_ok.mp written
      exact (mapM_eq_ok.mp written).length_eq.symm.trans (mapM_eq_ok.mp tasks_eq).length_eq.symm

/-! ### A mean, and the parts of a vector in a scope of their own -/

/-- A mean price per city, and the prices of a city by month. -/
def pricesQuery : Query :=
  { Query.empty with
    table := some (.ofName "sales")
    columns := [.ofName "city"]
    measures := [.binary "average" .divide (.aggregated "total" (.ofName "price") "sum" none) (.count "sales"),
      .vector "monthly" [(.ofName "price", "sum")] (.ofName "month") none] }

def pricesArena : Arena :=
  ⟨[.binary "average" .divide (.aggregated "total" (.ofName "price") "sum" none) (.count "sales"),
    .aggregated "total" (.ofName "price") "sum" none, .count "sales",
    .vector "monthly" [(.ofName "price", "sum")] (.ofName "month") none,
    .aggregated "__monthly_0__" (.ofName "price") "sum" none]⟩

/-- The scope of the months of each city. -/
def monthsScope : Scope := (Scope.ofQuery pricesQuery).forVector (.ofName "month")

theorem monthsScope_apart : monthsScope.key ≠ (Scope.ofQuery pricesQuery).key := by
  decide +kernel

def pricesDiscovery (root months : Scope) : Discovery :=
  ⟨[(root.key, root), (months.key, months)],
    ⟨[⟨root.key, "average"⟩, ⟨root.key, "monthly"⟩, ⟨root.key, "total"⟩, ⟨root.key, "sales"⟩,
        ⟨months.key, "__monthly_0__"⟩],
      [(0, 2), (0, 3), (1, 4)]⟩⟩

theorem expand_average (root : Scope) :
    Discovery.expand pricesArena (start root ["average", "monthly"]) ⟨root.key, "average"⟩ =
      .ok ⟨[(root.key, root)], ⟨[⟨root.key, "average"⟩, ⟨root.key, "monthly"⟩, ⟨root.key, "total"⟩,
        ⟨root.key, "sales"⟩], [(0, 2), (0, 3)]⟩⟩ := by
  simp [start, Discovery.expand, Discovery.scope, Arena.get, Arena.find?, pricesArena, Measure.label,
    Measure.dependencies, Measure.operands, Discovery.addDependency, Discovery.addScope,
    Graph.addDependency, Graph.addNode, Graph.empty, Graph.indexOf?, Graph.addEdge, List.findIdx?_cons]

theorem expand_monthly {root months : Scope} (split : root.forVector (.ofName "month") = months)
    (apart : months.key ≠ root.key) :
    Discovery.expand pricesArena ⟨[(root.key, root)], ⟨[⟨root.key, "average"⟩, ⟨root.key, "monthly"⟩,
        ⟨root.key, "total"⟩, ⟨root.key, "sales"⟩], [(0, 2), (0, 3)]⟩⟩ ⟨root.key, "monthly"⟩ =
      .ok (pricesDiscovery root months) := by
  have reads : (Measure.vector "monthly" [(.ofName "price", "sum")] (.ofName "month") none).dependencies
      root = .ok [(months, "__monthly_0__")] := by rw [← split]; rfl
  have found : pricesArena.find? "monthly" =
    some (.vector "monthly" [(.ofName "price", "sum")] (.ofName "month") none) := rfl
  have other : (months.key == root.key) = false := beq_eq_false_iff_ne.mpr apart
  simp [Discovery.expand, Discovery.scope, Arena.get, found, reads, Discovery.addDependency,
    Discovery.addScope, List.lookup_cons, other, Graph.addDependency, Graph.addNode, Graph.indexOf?,
    Graph.addEdge, List.findIdx?_cons, pricesDiscovery]

theorem pricesArena_run {root months : Scope} (split : root.forVector (.ofName "month") = months)
    (apart : months.key ≠ root.key) : (start root ["average", "monthly"]).run pricesArena
      (Discovery.nodeBound pricesArena root + 1) 0 = .ok (pricesDiscovery root months) := by
  obtain ⟨more, bound_eq⟩ : ∃ more, Discovery.nodeBound pricesArena root = more + 5 :=
    Discovery.exists_nodeBound_eq ..
  have other : (months.key == root.key) = false := beq_eq_false_iff_ne.mpr apart
  have leaf {scope : Scope} {label : String} (known : scope = root ∨ scope = months)
    (stored : label = "total" ∨ label = "sales" ∨ label = "__monthly_0__") :
      Discovery.expand pricesArena (pricesDiscovery root months) ⟨scope.key, label⟩ =
        .ok (pricesDiscovery root months) := by
    rcases known with rfl | rfl <;> rcases stored with rfl | rfl | rfl <;>
      simp [Discovery.expand, Discovery.scope, pricesDiscovery, List.lookup_cons, other, Arena.get,
        Arena.find?, pricesArena, Measure.label, Measure.dependencies]
  rw [bound_eq, Discovery.run_next (by simp [start, Graph.addNode, Graph.empty]) (expand_average root),
    Discovery.run_next rfl (expand_monthly split apart), Discovery.run_next rfl (leaf (.inl rfl) (.inl rfl)),
    Discovery.run_next rfl (leaf (.inl rfl) (.inr (.inl rfl)))]
  exact (Discovery.run_next rfl (leaf (.inr rfl) (.inr (.inr rfl)))).trans rfl

def pricesPlan (root months : Scope) : Plan :=
  ⟨root.key, pricesArena, ["average", "monthly"], pricesDiscovery root months⟩

theorem pricesPlan_built : build pricesQuery = .ok (pricesPlan (.ofQuery pricesQuery) monthsScope) := by
  refine build_eq_ok.mpr ⟨by decide, rfl, rfl, rfl, pricesArena_run rfl monthsScope_apart, ?_⟩
  have apart := monthsScope_apart
  unfold pricesPlan Plan.graph pricesDiscovery
  generalize monthsScope.key = months, (Scope.ofQuery pricesQuery).key = root at apart ⊢
  rfl

/-- Measures of the query's scope and the part of the vector read nothing else. -/
theorem reads_of_prices {root months : Scope} (split : root.forVector (.ofName "month") = months)
    {consumer dependency : Scope × String} (reads : pricesArena.Reads consumer dependency)
    (known : consumer.1 = root ∨ consumer = (months, "__monthly_0__")) :
    dependency.1 = root ∨ dependency = (months, "__monthly_0__") := by
  obtain ⟨measure, dependencies, found, read, member⟩ := reads
  rcases known with here | rfl
  · rw [here] at read
    have listed : measure ∈ pricesArena.measures := List.mem_of_find?_eq_some found
    simp only [pricesArena, List.mem_cons, List.not_mem_nil, or_false] at listed
    rcases listed with rfl | rfl | rfl | rfl | rfl <;> obtain rfl := Except.ok.inj read
    · obtain ⟨label, -, rfl⟩ := List.mem_map.mp member
      exact .inl rfl
    · cases member
    · cases member
    · exact .inr (split ▸ List.mem_singleton.mp member)
    · cases member
  · have part : pricesArena.find? "__monthly_0__" =
      some (.aggregated "__monthly_0__" (.ofName "price") "sum" none) := rfl
    obtain rfl := Option.some.inj (part.symm.trans found)
    obtain rfl := Except.ok.inj read
    cases member

theorem needs_of_prices {pair : Scope × String} (needed : pricesQuery.Needs pricesArena pair) :
    pair.1 = .ofQuery pricesQuery ∨ pair = (monthsScope, "__monthly_0__") := by
  induction needed with
  | asked => exact .inl rfl
  | read _ reads ih => exact reads_of_prices rfl reads ih

theorem pricesQuery_digests : pricesQuery.DigestsTellApart pricesArena := by
  intro pair other needed otherNeeded same
  rcases needs_of_prices needed with root | rfl <;> rcases needs_of_prices otherNeeded with otherRoot | rfl
  · rw [root, otherRoot]
  · exact absurd (same.symm.trans (congrArg Scope.key root)) monthsScope_apart
  · exact absurd (same.trans (congrArg Scope.key otherRoot)) monthsScope_apart
  · rfl

/-! ### Squares, one after the other and in a circle -/

/-- The square of the square of a measure. -/
def squaresQuery (base : Measure) : Query :=
  { Query.empty with
    table := some (.ofName "sales")
    columns := [.ofName "city"]
    measures := [.binary "fourth" .multiply (.ref "square") (.ref "square"),
      .binary "square" .multiply base (.ref base.label)] }

def chainQuery : Query := squaresQuery (.aggregated "total" (.ofName "price") "sum" none)

def circleQuery : Query := squaresQuery (.ref "fourth")

def chainArena : Arena :=
  ⟨[.binary "fourth" .multiply (.ref "square") (.ref "square"),
    .binary "square" .multiply (.aggregated "total" (.ofName "price") "sum" none) (.ref "total"),
    .aggregated "total" (.ofName "price") "sum" none]⟩

def circleArena : Arena :=
  ⟨[.binary "fourth" .multiply (.ref "square") (.ref "square"),
    .binary "square" .multiply (.ref "fourth") (.ref "fourth")]⟩

def chainDiscovery (scope : Scope) (key : ScopeKey) : Discovery :=
  ⟨[(key, scope)], ⟨[⟨key, "fourth"⟩, ⟨key, "square"⟩, ⟨key, "total"⟩], [(0, 1), (1, 2)]⟩⟩

def circleDiscovery (scope : Scope) (key : ScopeKey) : Discovery :=
  ⟨[(key, scope)], ⟨[⟨key, "fourth"⟩, ⟨key, "square"⟩], [(0, 1), (1, 0)]⟩⟩

/-- The graph when the operand of a square was added, once for each of its two places. -/
def addSquare (graph : Graph PlanNode) (key : ScopeKey) (label base : String) : Graph PlanNode :=
  (graph.addDependency ⟨key, label⟩ ⟨key, base⟩).addDependency ⟨key, label⟩ ⟨key, base⟩

theorem addSquare_fourth (key : ScopeKey) :
    addSquare ⟨[⟨key, "fourth"⟩, ⟨key, "square"⟩], []⟩ key "fourth" "square" =
      ⟨[⟨key, "fourth"⟩, ⟨key, "square"⟩], [(0, 1)]⟩ := by
  simp [addSquare, Graph.addDependency, Graph.addNode, Graph.indexOf?, Graph.addEdge, List.findIdx?_cons]

theorem addSquare_total (key : ScopeKey) :
    addSquare ⟨[⟨key, "fourth"⟩, ⟨key, "square"⟩], [(0, 1)]⟩ key "square" "total" =
      ⟨[⟨key, "fourth"⟩, ⟨key, "square"⟩, ⟨key, "total"⟩], [(0, 1), (1, 2)]⟩ := by
  simp [addSquare, Graph.addDependency, Graph.addNode, Graph.indexOf?, Graph.addEdge, List.findIdx?_cons]

theorem addSquare_circle (key : ScopeKey) :
    addSquare ⟨[⟨key, "fourth"⟩, ⟨key, "square"⟩], [(0, 1)]⟩ key "square" "fourth" =
      ⟨[⟨key, "fourth"⟩, ⟨key, "square"⟩], [(0, 1), (1, 0)]⟩ := by
  simp [addSquare, Graph.addDependency, Graph.addNode, Graph.indexOf?, Graph.addEdge, List.findIdx?_cons]

theorem expand_square {arena : Arena} {scope : Scope} {graph : Graph PlanNode} (label base : String)
    {left right : Measure} (found : arena.find? label = some (.binary label .multiply left right))
    (leftLabel : left.label = base) (rightLabel : right.label = base) :
    Discovery.expand arena ⟨[(scope.key, scope)], graph⟩ ⟨scope.key, label⟩ =
      .ok ⟨[(scope.key, scope)], addSquare graph scope.key label base⟩ := by
  simp [addSquare, Discovery.expand, Discovery.scope, Arena.get, found, Measure.dependencies, Measure.operands,
    leftLabel, rightLabel, Discovery.addDependency, Discovery.addScope]

theorem start_squares (scope : Scope) : start scope ["fourth", "square"] =
    ⟨[(scope.key, scope)], ⟨[⟨scope.key, "fourth"⟩, ⟨scope.key, "square"⟩], []⟩⟩ := by
  simp [start, Graph.addNode, Graph.empty]

theorem chainArena_run (scope : Scope) : (start scope ["fourth", "square"]).run chainArena
    (Discovery.nodeBound chainArena scope + 1) 0 = .ok (chainDiscovery scope scope.key) := by
  obtain ⟨more, bound_eq⟩ : ∃ more, Discovery.nodeBound chainArena scope = more + 3 :=
    Discovery.exists_nodeBound_eq ..
  have leaf : Discovery.expand chainArena (chainDiscovery scope scope.key) ⟨scope.key, "total"⟩ =
      .ok (chainDiscovery scope scope.key) := by
    simp [Discovery.expand, chainDiscovery, Discovery.scope, chainArena, Arena.get, Arena.find?,
      Measure.label, Measure.dependencies]
  rw [bound_eq, start_squares, Discovery.run_next rfl (expand_square "fourth" "square" rfl rfl rfl),
    addSquare_fourth, Discovery.run_next rfl (expand_square "square" "total" rfl rfl rfl),
    addSquare_total]
  exact (Discovery.run_next rfl leaf).trans rfl

theorem circleArena_run (scope : Scope) : (start scope ["fourth", "square"]).run circleArena
    (Discovery.nodeBound circleArena scope + 1) 0 = .ok (circleDiscovery scope scope.key) := by
  obtain ⟨more, bound_eq⟩ : ∃ more, Discovery.nodeBound circleArena scope = more + 2 :=
    Discovery.exists_nodeBound_eq ..
  rw [bound_eq, start_squares, Discovery.run_next rfl (expand_square "fourth" "square" rfl rfl rfl),
    addSquare_fourth, Discovery.run_next rfl (expand_square "square" "fourth" rfl rfl rfl),
    addSquare_circle]
  rfl

def chainPlan (scope : Scope) (key : ScopeKey) : Plan :=
  ⟨key, chainArena, ["fourth", "square"], chainDiscovery scope key⟩

theorem chainPlan_built :
    build chainQuery = .ok (chainPlan (.ofQuery chainQuery) (Scope.ofQuery chainQuery).key) := by
  refine build_eq_ok.mpr ⟨by decide, rfl, rfl, rfl, chainArena_run _, ?_⟩
  generalize (Scope.ofQuery chainQuery).key = key
  rfl

theorem chainQuery_digests : chainQuery.DigestsTellApart chainArena := by
  have oneScope {pair : Scope × String} (needed : chainQuery.Needs chainArena pair) :
      pair.1 = .ofQuery chainQuery := by
    induction needed with
    | asked => rfl
    | read _ reads ih =>
      obtain ⟨measure, dependencies, found, read, member⟩ := reads
      have listed : measure ∈ chainArena.measures := List.mem_of_find?_eq_some found
      simp only [chainArena, List.mem_cons, List.not_mem_nil, or_false] at listed
      rcases listed with rfl | rfl | rfl <;> obtain rfl := Except.ok.inj read
      · obtain ⟨label, -, rfl⟩ := List.mem_map.mp member
        exact ih
      · obtain ⟨label, -, rfl⟩ := List.mem_map.mp member
        exact ih
      · cases member
  intro pair other needed otherNeeded _
  exact (oneScope needed).trans (oneScope otherNeeded).symm

/-- Squares in a circle: the discovery ends, and the plan is refused afterwards. One after the other:
the plan is exact. So is a plan with a second scope, that of the parts of a vector. -/
theorem squares_planned :
    Discovery.Ends circleArena 0 (start (.ofQuery circleQuery) ["fourth", "square"])
        (.ok (circleDiscovery (.ofQuery circleQuery) (Scope.ofQuery circleQuery).key)) ∧
      (∀ plan, build circleQuery ≠ .ok plan) ∧
      (chainPlan (.ofQuery chainQuery) (Scope.ofQuery chainQuery).key).Exact chainQuery ∧
      build pricesQuery = .ok (pricesPlan (.ofQuery pricesQuery) monthsScope) ∧
      monthsScope.key ≠ (Scope.ofQuery pricesQuery).key ∧
      (pricesPlan (.ofQuery pricesQuery) monthsScope).Exact pricesQuery := by
  refine ⟨?_, fun plan built => ?_,
    (discovery_exact chainQuery).2 _ chainPlan_built chainQuery_digests, pricesPlan_built,
    monthsScope_apart, (discovery_exact pricesQuery).2 _ pricesPlan_built pricesQuery_digests⟩
  · rw [← circleArena_run]
    exact (discovery_exact circleQuery).1 circleArena ["fourth", "square"] rfl rfl
  · obtain ⟨-, arena_eq, requested_eq, -, ran, acyclic⟩ := build_eq_ok.mp built
    obtain ⟨root, arena, requested, discovery⟩ := plan
    obtain rfl : circleArena = arena := Except.ok.inj arena_eq
    obtain rfl : ["fourth", "square"] = requested := Except.ok.inj requested_eq
    obtain rfl := Except.ok.inj ((circleArena_run _).symm.trans ran)
    generalize (Scope.ofQuery circleQuery).key = key at acyclic
    cases acyclic

end Plan

end CubeQuery
