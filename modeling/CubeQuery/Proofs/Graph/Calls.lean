import CubeQuery.Proofs.Graph.Layers

/-! Graphs as they are built, call by call. The calls tell the nodes, in the order in which they are
mentioned first, and what depends on what; layers and cycles of the graph are those of the calls. -/

namespace CubeQuery.Graph

open List Relation Steps

variable {ν : Type}

/-! ### Calls -/

inductive Call (ν : Type) where
  | node (added : ν)
  | dependency (consumer needed : ν)

def Call.mentions : Call ν → List ν
  | .node added => [added]
  | .dependency consumer needed => [consumer, needed]

def DependsOn (calls : List (Call ν)) (consumer dependency : ν) : Prop :=
  .dependency consumer dependency ∈ calls

/-- A chain of dependencies leads back to the node that it starts at, which may depend on itself. -/
def Cyclic (calls : List (Call ν)) : Prop := ∃ node, TransGen (DependsOn calls) node node

variable [DecidableEq ν]

/-- Each node that is mentioned, once. -/
def mentioned (calls : List (Call ν)) : List ν := (calls.flatMap Call.mentions).eraseDups

def Call.run (graph : Graph ν) : Call ν → Graph ν
  | .node added => graph.addNode added
  | .dependency consumer needed => graph.addDependency consumer needed

def ofCalls (calls : List (Call ν)) : Graph ν := calls.foldl Call.run .empty

/-! ### What calls leave behind -/

theorem eraseDups_concat (nodes : List ν) (node : ν) : (nodes ++ [node]).eraseDups =
    if node ∈ nodes then nodes.eraseDups else nodes.eraseDups ++ [node] := by
  rw [eraseDups_append]
  by_cases known : node ∈ nodes
  · simp [removeAll, known]
  · have alone : [node].eraseDups = [node] := rfl
    simp [removeAll, known, alone]

theorem eraseDups_nodup (nodes : List ν) : nodes.eraseDups.Nodup := by
  induction nodes using List.reverseRecOn with
  | nil => exact nodup_nil
  | append_singleton nodes node ih =>
    rw [eraseDups_concat]
    split
    · exact ih
    next new =>
      rw [← concat_eq_append]
      exact ih.concat fun listed => new (mem_eraseDups.mp listed)

theorem nodes_addNode {graph : Graph ν} {nodes : List ν} (nodes_eq : graph.nodes = nodes.eraseDups)
    (node : ν) : (graph.addNode node).nodes = (nodes ++ [node]).eraseDups := by
  have same : node ∈ graph.nodes ↔ node ∈ nodes := by rw [nodes_eq, mem_eraseDups]
  unfold addNode
  rw [eraseDups_concat]
  by_cases known : node ∈ nodes
  · rw [if_pos known, if_pos (same.mpr known), nodes_eq]
  · rw [if_neg known, if_neg (known ∘ same.mp), nodes_eq]

theorem nodes_addDependency (graph : Graph ν) (consumer dependency : ν) :
    (graph.addDependency consumer dependency).nodes =
      ((graph.addNode consumer).addNode dependency).nodes := by
  unfold addDependency
  dsimp only
  split
  · exact nodes_addEdge _ _ _
  · rfl

/-- The graph holds what the calls say. -/
structure Records (graph : Graph ν) (calls : List (Call ν)) : Prop where
  wellFormed : graph.WellFormed
  nodes : graph.nodes = mentioned calls
  edges : ∀ index other, graph.Edge index other ↔ ∃ consumer dependency,
    graph.nodes[index]? = some consumer ∧ graph.nodes[other]? = some dependency ∧
      DependsOn calls consumer dependency

theorem Records.mem_nodes {graph : Graph ν} {calls : List (Call ν)} (records : graph.Records calls)
    {consumer dependency : ν} (depends : DependsOn calls consumer dependency) :
    consumer ∈ graph.nodes ∧ dependency ∈ graph.nodes := by
  rw [records.nodes]
  unfold mentioned
  rw [mem_eraseDups, mem_eraseDups]
  exact ⟨mem_flatMap.mpr ⟨_, depends, mem_cons_self⟩,
    mem_flatMap.mpr ⟨_, depends, mem_cons_of_mem _ mem_cons_self⟩⟩

/-- The edges stay those of the calls when nodes are added behind the others. -/
theorem Records.edges_kept {graph grown : Graph ν} {calls : List (Call ν)} (records : graph.Records calls)
    (wellFormed : grown.WellFormed) (kept : graph.nodes <+: grown.nodes) (index other : Nat) :
    graph.Edge index other ↔ ∃ consumer dependency,
      grown.nodes[index]? = some consumer ∧ grown.nodes[other]? = some dependency ∧
        DependsOn calls consumer dependency := by
  rw [records.edges]
  refine exists_congr fun consumer => exists_congr fun dependency => ?_
  constructor
  · rintro ⟨first, second, depends⟩
    exact ⟨(wellFormed.getElem?_of_kept kept (records.mem_nodes depends).1).mp first,
      (wellFormed.getElem?_of_kept kept (records.mem_nodes depends).2).mp second, depends⟩
  · rintro ⟨first, second, depends⟩
    exact ⟨(wellFormed.getElem?_of_kept kept (records.mem_nodes depends).1).mpr first,
      (wellFormed.getElem?_of_kept kept (records.mem_nodes depends).2).mpr second, depends⟩

theorem Records.run {graph : Graph ν} {calls : List (Call ν)} (records : graph.Records calls)
    (call : Call ν) : (call.run graph).Records (calls ++ [call]) := by
  have nodes_eq : graph.nodes = (calls.flatMap Call.mentions).eraseDups := records.nodes
  cases call with
  | node added =>
    have grown := records.wellFormed.addNode added
    refine ⟨grown, ?_, fun index other => ?_⟩
    · unfold mentioned
      rw [flatMap_append]
      exact nodes_addNode nodes_eq added
    · have same : ∀ consumer dependency, DependsOn (calls ++ [.node added]) consumer dependency ↔
          DependsOn calls consumer dependency := by simp [DependsOn]
      simp only [same]
      exact edge_addNode.trans
        (records.edges_kept grown (graph.nodes_prefix_addNode added) index other)
  | dependency consumer needed =>
    have adds := addDependency_adds records.wellFormed consumer needed
    refine ⟨adds.wellFormed, ?_, fun index other => ?_⟩
    · unfold mentioned
      rw [flatMap_append, flatMap_singleton, Call.mentions, append_cons]
      exact (nodes_addDependency ..).trans (nodes_addNode (nodes_addNode nodes_eq consumer) needed)
    · rw [Call.run, adds.edges, records.edges_kept adds.wellFormed adds.kept]
      constructor
      · rintro (⟨first, second, firstStands, secondStands, depends⟩ | ⟨firstStands, secondStands⟩)
        · exact ⟨first, second, firstStands, secondStands, mem_append_left _ depends⟩
        · exact ⟨consumer, needed, firstStands, secondStands, mem_append_right _ mem_cons_self⟩
      · rintro ⟨first, second, firstStands, secondStands, depends⟩
        rcases mem_append.mp depends with earlier | now
        · exact .inl ⟨first, second, firstStands, secondStands, earlier⟩
        · obtain ⟨rfl, rfl⟩ := Call.dependency.inj (mem_singleton.mp now)
          exact .inr ⟨firstStands, secondStands⟩

theorem ofCalls_records (calls : List (Call ν)) : (ofCalls calls).Records calls := by
  induction calls using List.reverseRecOn with
  | nil => exact ⟨wellFormed_empty, rfl, by simp [ofCalls, empty, Edge]⟩
  | append_singleton calls call ih =>
    unfold ofCalls
    rw [foldl_append]
    exact ih.run call

/-! ### Places and nodes -/

namespace Records

variable {graph : Graph ν} {calls : List (Call ν)}

theorem edges_simulate (records : graph.Records calls) :
    Simulates graph.Edge (DependsOn calls) fun index node => graph.nodes[index]? = some node := by
  intro index node stands other edge
  obtain ⟨consumer, dependency, first, second, depends⟩ := (records.edges index other).mp edge
  obtain rfl := Option.some.inj (first.symm.trans stands)
  exact ⟨dependency, second, depends⟩

theorem dependencies_simulate (records : graph.Records calls) :
    Simulates (DependsOn calls) graph.Edge fun node index => graph.nodes[index]? = some node := by
  intro node index stands dependency depends
  obtain ⟨other, otherStands⟩ := mem_iff_getElem?.mp (records.mem_nodes depends).2
  exact ⟨other, otherStands, (records.edges index other).mpr ⟨node, dependency, stands, otherStands, depends⟩⟩

theorem longestChain_iff (records : graph.Records calls) {index : Nat} {node : ν}
    (stands : graph.nodes[index]? = some node) {depth : Nat} :
    LongestChain graph.Edge index depth ↔ LongestChain (DependsOn calls) node depth :=
  ⟨.of_simulates records.edges_simulate records.dependencies_simulate stands,
    .of_simulates records.dependencies_simulate records.edges_simulate stands⟩

theorem path_iff (records : graph.Records calls) {index other : Nat} {node dependency : ν}
    (stands : graph.nodes[index]? = some node) (otherStands : graph.nodes[other]? = some dependency) :
    TransGen graph.Edge index other ↔ TransGen (DependsOn calls) node dependency := by
  constructor
  · intro path
    obtain ⟨image, imageStands, nodePath⟩ := records.edges_simulate.path stands path
    obtain rfl := Option.some.inj (imageStands.symm.trans otherStands)
    exact nodePath
  · intro path
    obtain ⟨image, imageStands, placePath⟩ := records.dependencies_simulate.path stands path
    obtain rfl := records.wellFormed.index_unique imageStands otherStands
    exact placePath

theorem acyclic_iff (records : graph.Records calls) : graph.Acyclic ↔ ¬Cyclic calls := by
  constructor
  · rintro acyclic ⟨node, cycle⟩
    obtain ⟨next, depends, -⟩ := TransGen.head'_iff.mp cycle
    obtain ⟨index, stands⟩ := mem_iff_getElem?.mp (records.mem_nodes depends).1
    exact acyclic index ((records.path_iff stands stands).mpr cycle)
  · intro acyclic index cycle
    obtain ⟨next, edge, -⟩ := TransGen.head'_iff.mp cycle
    obtain ⟨node, -, stands, -, -⟩ := (records.edges index next).mp edge
    exact acyclic ⟨node, (records.path_iff stands stands).mp cycle⟩

end Records

end CubeQuery.Graph
