import CubeQuery.Proofs.Graph.ReportedCycle

/-! The layers of a graph told by the calls that build it. They exist when the calls have no cycle, and
then the layer of a node is told by the longest chain of dependencies that starts at it. -/

namespace CubeQuery.Graph

open List Relation Steps

variable {ν : Type}

/-- No level is without nodes, because every place has one. -/
theorem Levels.nil_notMem_map {graph : Graph ν} {places : List (List Nat)} (levels : graph.Levels 0 places) :
    [] ∉ places.map graph.nodesAt := by
  intro listed
  obtain ⟨layer, placed, noNodes⟩ := mem_map.mp listed
  have filled : layer ≠ [] := fun none => levels.nonempty (none ▸ placed)
  obtain ⟨index, rest, layer_eq⟩ := exists_cons_of_ne_nil filled
  have here : index ∈ layer := layer_eq ▸ mem_cons_self
  have inside := levels.mem_flatten.mp (mem_flatten_of_mem placed here)
  exact ne_nil_of_mem (mem_nodesAt.mpr ⟨index, here, getElem?_eq_getElem inside⟩) noNodes

variable [DecidableEq ν]

open Classical in
/-- The nodes whose longest chain has the given length, in the order in which they are mentioned first. -/
noncomputable def chainLevel (calls : List (Call ν)) (depth : Nat) : List ν :=
  (mentioned calls).filter fun node => LongestChain (DependsOn calls) node depth

theorem mem_chainLevel {calls : List (Call ν)} {depth : Nat} {node : ν} :
    node ∈ chainLevel calls depth ↔ node ∈ mentioned calls ∧ LongestChain (DependsOn calls) node depth := by
  unfold chainLevel
  simp only [mem_filter, decide_eq_true_eq]

theorem Records.nodesAt_level {graph : Graph ν} {calls : List (Call ν)} (records : graph.Records calls)
    (depth : Nat) : graph.nodesAt (graph.level depth) = chainLevel calls depth := by
  unfold level chainLevel
  rw [← records.nodes]
  exact nodesAt_filter fun _ _ stands => decide_eq_decide.mpr (records.longestChain_iff stands)

/-- A dependency has a shorter longest chain than its consumer. -/
theorem exists_lower_of_dependsOn {calls : List (Call ν)} {depth : Nat} {node dependency : ν}
    (listed : node ∈ chainLevel calls depth) (depends : DependsOn calls node dependency) :
    ∃ lower < depth, dependency ∈ chainLevel calls lower := by
  obtain ⟨lower, small, longest⟩ := (mem_chainLevel.mp listed).2.step depends
  have records := ofCalls_records calls
  exact ⟨lower, small, mem_chainLevel.mpr ⟨records.nodes ▸ (records.mem_nodes depends).2, longest⟩⟩

theorem not_dependsOn_of_mem {calls : List (Call ν)} {depth : Nat} {node other : ν}
    (listed : node ∈ chainLevel calls depth) (otherListed : other ∈ chainLevel calls depth) :
    ¬DependsOn calls node other := by
  intro depends
  obtain ⟨lower, small, placed⟩ := exists_lower_of_dependsOn listed depends
  have same := (mem_chainLevel.mp placed).2.unique (mem_chainLevel.mp otherListed).2
  omega

/-- What the layers of a graph without cycles are. -/
structure Layered (calls : List (Call ν)) (layers : List (List ν)) : Prop where
  layers_eq : layers = (range layers.length).map (chainLevel calls)
  partition : layers.flatten.Perm (mentioned calls)
  nonempty : [] ∉ layers
  lower : ∀ depth, ∀ node ∈ chainLevel calls depth, ∀ dependency, DependsOn calls node dependency →
    ∃ earlier < depth, dependency ∈ chainLevel calls earlier
  independent : ∀ layer ∈ layers, ∀ node ∈ layer, ∀ other ∈ layer, ¬DependsOn calls node other

theorem Records.layered {graph : Graph ν} {calls : List (Call ν)} (records : graph.Records calls)
    {name : ν → String} (passed : graph.checkAcyclic name = .ok ()) :
    ∃ layers, graph.layers name = .ok layers ∧ Layered calls layers := by
  obtain ⟨places, levels, built⟩ := exists_layers records.wellFormed passed
  obtain ⟨distinct, all, -⟩ := layers_spec records.wellFormed built
  have layers_eq : places.map graph.nodesAt = (range places.length).map (chainLevel calls) := by
    conv_lhs => rw [levels.layers_eq, ← range_eq_range', List.map_map]
    exact map_congr_left fun depth _ => records.nodesAt_level depth
  refine ⟨places.map graph.nodesAt, built, ?_, ?_, levels.nil_notMem_map, ?_, ?_⟩
  · rw [length_map]
    exact layers_eq
  · have once : (mentioned calls).Nodup := eraseDups_nodup _
    rw [← records.nodes] at once ⊢
    exact (perm_ext_iff_of_nodup distinct once).mpr all
  · exact fun depth node listed dependency => exists_lower_of_dependsOn listed
  · intro layer listed node here other there
    rw [layers_eq] at listed
    obtain ⟨depth, -, rfl⟩ := mem_map.mp listed
    exact not_dependsOn_of_mem here there

/-- Layers exist exactly when the calls have no cycle, and any failure is that of the check for cycles. -/
theorem layers_by_longest_chain (calls : List (Call ν)) (name : ν → String) :
    Cyclic calls ∧ (∃ cycle, cycle ≠ [] ∧
        (ofCalls calls).checkAcyclic name = .error (.cyclicDependency cycle) ∧
        (ofCalls calls).layers name = .error (.cyclicDependency cycle) ∧
        (ofCalls calls).topologicalOrder name = .error (.cyclicDependency cycle)) ∨
      ¬Cyclic calls ∧ ∃ layers, (ofCalls calls).layers name = .ok layers ∧
        (ofCalls calls).topologicalOrder name = .ok layers.flatten ∧ Layered calls layers := by
  have records := ofCalls_records calls
  obtain ⟨acyclic, passed⟩ | ⟨first, rest, members, failed⟩ := records.checkAcyclic_cases name
  · obtain ⟨layers, built, layered⟩ := records.layered passed
    refine .inr ⟨acyclic, layers, built, ?_, layered⟩
    unfold topologicalOrder
    rw [built]
    rfl
  · have together : Together calls first first := mem_cycleThrough.mp (members ▸ mem_cons_self)
    refine .inl ⟨⟨first, together.1⟩, _, cons_ne_nil _ _, failed, ?_⟩
    -- The check fails before a layer is asked for, so no round of the loop finds nothing ready.
    unfold topologicalOrder layers
    rw [failed, error_bind]
    exact ⟨rfl, rfl⟩

/-- A node that is mentioned alone, a dependency that is told twice, and two ways down. -/
example : (ofCalls [.node "lone", .dependency "top" "left", .dependency "top" "right",
    .dependency "left" "base", .dependency "right" "base", .dependency "top" "left",
    .dependency "top" "base"]).layers id = .ok [["lone", "base"], ["left", "right"], ["top"]] := by
  cbv

end CubeQuery.Graph
