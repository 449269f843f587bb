import CubeQuery.Proofs.Graph.Reachability
import Mathlib.Data.List.Nodup

/-! A graph that grows by nodes and dependencies stays well formed. Places that were given out stay
valid, because nodes are only added behind the others. -/

namespace CubeQuery.Graph

variable {ν : Type}

theorem WellFormed.index_unique {graph : Graph ν} (wellFormed : graph.WellFormed) {node : ν}
    {index other : Nat} (first : graph.nodes[index]? = some node)
    (second : graph.nodes[other]? = some node) : index = other := by
  obtain ⟨inside, -⟩ := List.getElem?_eq_some_iff.mp first
  exact (List.getElem?_inj inside wellFormed.distinct).mp (first.trans second.symm)

/-- Nodes that are added behind the others leave the places of the others alone. -/
theorem WellFormed.getElem?_of_kept {graph grown : Graph ν} (wellFormed : grown.WellFormed)
    (kept : graph.nodes <+: grown.nodes) {node : ν} (listed : node ∈ graph.nodes) {index : Nat} :
    graph.nodes[index]? = some node ↔ grown.nodes[index]? = some node := by
  obtain ⟨rest, grown_eq⟩ := kept
  have old {place : Nat} (stands : graph.nodes[place]? = some node) :
      grown.nodes[place]? = some node := by
    obtain ⟨inside, -⟩ := List.getElem?_eq_some_iff.mp stands
    rw [← grown_eq, List.getElem?_append_left inside, stands]
  constructor
  · exact old
  · intro stands
    obtain ⟨place, placed⟩ := List.mem_iff_getElem?.mp listed
    rw [wellFormed.index_unique stands (old placed)]
    exact placed

theorem wellFormed_empty : (empty : Graph ν).WellFormed where
  distinct := List.nodup_nil
  inside := fun edge => absurd edge List.not_mem_nil

theorem nodes_addEdge (graph : Graph ν) (consumer dependency : Nat) :
    (graph.addEdge consumer dependency).nodes = graph.nodes := by
  unfold addEdge
  split <;> rfl

theorem edge_addEdge {graph : Graph ν} {consumer dependency index other : Nat} :
    (graph.addEdge consumer dependency).Edge index other ↔
      graph.Edge index other ∨ (index = consumer ∧ other = dependency) := by
  unfold addEdge Edge
  split
  · next present =>
    constructor
    · exact .inl
    · rintro (listed | ⟨rfl, rfl⟩)
      · exact listed
      · exact present
  · simp

variable [DecidableEq ν]

theorem indexOf?_eq_some {graph : Graph ν} (wellFormed : graph.WellFormed) {node : ν} {index : Nat} :
    graph.indexOf? node = some index ↔ graph.nodes[index]? = some node := by
  unfold indexOf?
  rw [List.findIdx?_eq_some_iff_getElem]
  constructor
  · rintro ⟨inside, same, -⟩
    rw [List.getElem?_eq_getElem inside, of_decide_eq_true same]
  · intro stands
    obtain ⟨inside, same⟩ := List.getElem?_eq_some_iff.mp stands
    refine ⟨inside, decide_eq_true same, fun other before => ?_⟩
    intro twice
    have otherStands : graph.nodes[other]? = some node := by
      rw [List.getElem?_eq_getElem (Nat.lt_trans before inside), of_decide_eq_true twice]
    have := wellFormed.index_unique stands otherStands
    omega

theorem indexOf?_of_mem {graph : Graph ν} (wellFormed : graph.WellFormed) {node : ν}
    (listed : node ∈ graph.nodes) : ∃ index, graph.indexOf? node = some index := by
  obtain ⟨index, inside, stands⟩ := List.getElem_of_mem listed
  exact ⟨index, (indexOf?_eq_some wellFormed).mpr (List.getElem?_eq_some_iff.mpr ⟨inside, stands⟩)⟩

/-! ### Nodes -/

theorem edge_addNode {graph : Graph ν} {node : ν} {index other : Nat} :
    (graph.addNode node).Edge index other ↔ graph.Edge index other := by
  unfold addNode
  split <;> rfl

theorem nodes_prefix_addNode (graph : Graph ν) (node : ν) :
    graph.nodes <+: (graph.addNode node).nodes := by
  unfold addNode
  split
  · exact List.prefix_refl _
  · exact List.prefix_append _ _

theorem mem_addNode {graph : Graph ν} {node other : ν} :
    other ∈ (graph.addNode node).nodes ↔ other ∈ graph.nodes ∨ other = node := by
  unfold addNode
  split
  · next present =>
    constructor
    · exact .inl
    · rintro (listed | rfl)
      · exact listed
      · exact present
  · simp

theorem WellFormed.addNode {graph : Graph ν} (wellFormed : graph.WellFormed) (node : ν) :
    (graph.addNode node).WellFormed where
  distinct := by
    unfold Graph.addNode
    split
    · exact wellFormed.distinct
    · next absent =>
      rw [← List.concat_eq_append]
      exact List.Nodup.concat absent wellFormed.distinct
  inside := by
    intro consumer dependency edge
    obtain ⟨first, second⟩ := wellFormed.inside (edge_addNode.mp edge)
    have longer : graph.size ≤ (graph.addNode node).size :=
      (graph.nodes_prefix_addNode node).length_le
    omega

/-! ### Dependencies -/

/-- What the new dependency adds: its two nodes, and the edge between their places. -/
structure AddsDependency (graph grown : Graph ν) (consumer dependency : ν) : Prop where
  wellFormed : grown.WellFormed
  kept : graph.nodes <+: grown.nodes
  nodes : ∀ node, node ∈ grown.nodes ↔ node ∈ graph.nodes ∨ node = consumer ∨ node = dependency
  edges : ∀ index other, grown.Edge index other ↔ graph.Edge index other ∨
    (grown.nodes[index]? = some consumer ∧ grown.nodes[other]? = some dependency)

theorem addDependency_adds {graph : Graph ν} (wellFormed : graph.WellFormed) (consumer dependency : ν) :
    graph.AddsDependency (graph.addDependency consumer dependency) consumer dependency := by
  have grownFormed := (wellFormed.addNode consumer).addNode dependency
  have grownNodes : ∀ node, node ∈ ((graph.addNode consumer).addNode dependency).nodes ↔
      node ∈ graph.nodes ∨ node = consumer ∨ node = dependency := by
    intro node
    rw [mem_addNode, mem_addNode, or_assoc]
  obtain ⟨first, firstFound⟩ := indexOf?_of_mem grownFormed ((grownNodes consumer).mpr (by simp))
  obtain ⟨second, secondFound⟩ := indexOf?_of_mem grownFormed ((grownNodes dependency).mpr (by simp))
  have firstStands := (indexOf?_eq_some grownFormed).mp firstFound
  have secondStands := (indexOf?_eq_some grownFormed).mp secondFound
  unfold addDependency
  simp only [firstFound, secondFound]
  refine ⟨⟨?_, ?_⟩, ?_, ?_, ?_⟩
  · rw [nodes_addEdge]
    exact grownFormed.distinct
  · intro index other edge
    unfold size
    rw [nodes_addEdge]
    rcases edge_addEdge.mp edge with old | ⟨rfl, rfl⟩
    · exact grownFormed.inside old
    · exact ⟨(List.getElem?_eq_some_iff.mp firstStands).1,
        (List.getElem?_eq_some_iff.mp secondStands).1⟩
  · rw [nodes_addEdge]
    exact (graph.nodes_prefix_addNode consumer).trans (nodes_prefix_addNode _ dependency)
  · intro node
    rw [nodes_addEdge]
    exact grownNodes node
  · intro index other
    rw [edge_addEdge, edge_addNode, edge_addNode, nodes_addEdge]
    refine or_congr_right ⟨?_, ?_⟩
    · rintro ⟨rfl, rfl⟩
      exact ⟨firstStands, secondStands⟩
    · rintro ⟨indexStands, otherStands⟩
      exact ⟨grownFormed.index_unique indexStands firstStands,
        grownFormed.index_unique otherStands secondStands⟩

end CubeQuery.Graph
