import CubeQuery.Graph.Layer
import CubeQuery.Proofs.Graph.Chains
import CubeQuery.Proofs.Graph.Growth
import CubeQuery.Proofs.Steps
import Mathlib.Data.Fintype.EquivFin
import Mathlib.Order.WellFounded

/-! The layers of a graph without cycles: a place stands in the layer whose number is the length of the
longest chain of dependencies from it. So the layers list every place once, each behind all the places
that it depends on. -/

namespace CubeQuery.Graph

open Relation Steps

variable {ν : Type}

/-! ### Counts of dependencies -/

theorem count_consumers (graph : Graph ν) (index other : Nat) :
    (graph.consumers other).count index = (graph.successors index).count other := by
  unfold consumers successors
  induction graph.edges with
  | nil => rfl
  | cons edge rest ih =>
    obtain ⟨first, second⟩ := edge
    by_cases here : first = index
    · by_cases there : second = other
      · simp [here, there] at ih ⊢
        exact ih
      · simpa [here, there, List.count_cons] using ih
    · by_cases there : second = other
      · simpa [here, there, List.count_cons] using ih
      · simpa [here, there] using ih

theorem getElem?_release (graph : Graph ν) (waiting : List Nat) (place index : Nat) :
    (graph.release waiting place)[index]? =
      waiting[index]?.map (· - (graph.successors index).count place) := by
  unfold release
  rw [← count_consumers]
  induction graph.consumers place generalizing waiting with
  | nil => simp
  | cons consumer rest ih =>
    rw [List.foldl_cons, ih, List.getElem?_modify, List.count_cons]
    by_cases here : consumer = index
    · simp [here, Function.comp_def, Nat.sub_sub, Nat.add_comm]
    · simp [here]

/-- Each place counts the dependencies that are not done. -/
def Waits (graph : Graph ν) (waiting done : List Nat) : Prop :=
  waiting = graph.indices.map fun index => (graph.successors index).countP (· ∉ done)

theorem waits_dependencyCounts (graph : Graph ν) : graph.Waits graph.dependencyCounts [] := by
  unfold Waits dependencyCounts
  simp

theorem countP_notMem_concat {done : List Nat} {place : Nat} (new : place ∉ done) (places : List Nat) :
    places.countP (· ∉ done ++ [place]) = places.countP (· ∉ done) - places.count place := by
  have split : places.countP (· ∉ done ++ [place]) + places.count place = places.countP (· ∉ done) := by
    induction places with
    | nil => rfl
    | cons first rest ih =>
      by_cases here : first = place
      · subst here
        simp [new] at ih ⊢
        omega
      · simp [List.countP_cons, here] at ih ⊢
        omega
  omega

theorem Waits.release {graph : Graph ν} {waiting done : List Nat} (waits : graph.Waits waiting done)
    {place : Nat} (new : place ∉ done) : graph.Waits (graph.release waiting place) (done ++ [place]) := by
  apply List.ext_getElem?
  intro index
  rw [getElem?_release, waits, List.getElem?_map, List.getElem?_map]
  unfold indices
  by_cases inside : index < graph.size
  · simp only [List.getElem?_range inside, Option.map_some]
    rw [countP_notMem_concat new]
  · simp [inside]

theorem Waits.releaseAll {graph : Graph ν} {waiting done layer : List Nat}
    (waits : graph.Waits waiting done) (apart : (done ++ layer).Nodup) :
    graph.Waits (layer.foldl graph.release waiting) (done ++ layer) := by
  induction layer generalizing waiting done with
  | nil => simpa using waits
  | cons place rest ih =>
    rw [List.append_cons] at apart ⊢
    have new : place ∉ done := fun known =>
      (List.nodup_append'.mp apart.of_append_left).2.2 known List.mem_cons_self
    exact ih (waits.release new) apart

theorem mem_ready {graph : Graph ν} {waiting done : List Nat} (waits : graph.Waits waiting done)
    {index : Nat} : index ∈ graph.ready waiting done ↔
      index < graph.size ∧ index ∉ done ∧ ∀ other, graph.Edge index other → other ∈ done := by
  unfold ready
  rw [waits]
  unfold indices
  simp only [List.mem_filter, List.mem_range, Bool.and_eq_true, Bool.not_eq_true', List.contains_eq_mem,
    decide_eq_false_iff_not, beq_iff_eq, ← mem_successors]
  refine and_congr_right fun inside => and_congr_right fun _ => ?_
  simp [inside, List.countP_eq_zero]

/-- Where no path leads back to its start, going along paths comes to an end. -/
theorem wellFounded_paths (path : Nat → Nat → Prop) (trans : ∀ {first second third}, path first second →
    path second third → path first third) (irrefl : ∀ index, ¬path index index) (size : Nat) :
    WellFounded fun first second : Fin size => path first second := by
  have : IsTrans (Fin size) fun first second => path first second := ⟨fun _ _ _ => trans⟩
  have : Std.Irrefl fun first second : Fin size => path first second := ⟨fun place => irrefl place⟩
  exact Finite.wellFounded_of_trans_of_irrefl _

/-- Without cycles some place that is not done depends on nothing else that is not done. -/
theorem ready_ne_nil {graph : Graph ν} (wellFormed : graph.WellFormed) (acyclic : graph.Acyclic)
    {waiting done : List Nat} (waits : graph.Waits waiting done) {index : Nat}
    (inside : index < graph.size) (missing : index ∉ done) : graph.ready waiting done ≠ [] := by
  have founded : WellFounded fun first second : Fin graph.size => TransGen graph.Edge second first :=
    wellFounded_paths (fun first second => TransGen graph.Edge second first)
      (fun first second => second.trans first) acyclic graph.size
  obtain ⟨least, notDone, minimal⟩ :=
    founded.has_min {place : Fin graph.size | place.val ∉ done} ⟨⟨index, inside⟩, missing⟩
  refine List.ne_nil_of_mem (a := least.val) ((mem_ready waits).mpr ⟨least.isLt, notDone, ?_⟩)
  intro other edge
  by_contra waiting
  exact minimal ⟨other, (wellFormed.inside edge).2⟩ waiting (.single edge)

/-! ### Levels -/

open Classical in
/-- The places whose longest chain has the given length, in order. -/
noncomputable def level (graph : Graph ν) (depth : Nat) : List Nat :=
  graph.indices.filter fun index => LongestChain graph.Edge index depth

theorem mem_level {graph : Graph ν} {depth index : Nat} :
    index ∈ graph.level depth ↔ index < graph.size ∧ LongestChain graph.Edge index depth := by
  unfold level indices
  simp only [List.mem_filter, List.mem_range, decide_eq_true_eq]

theorem level_nodup (graph : Graph ν) (depth : Nat) : (graph.level depth).Nodup :=
  List.nodup_range.filter _

/-- The places done are those with a shorter longest chain. -/
def Settled (graph : Graph ν) (depth : Nat) (done : List Nat) : Prop :=
  ∀ index, index ∈ done ↔ index < graph.size ∧ ∃ length < depth, LongestChain graph.Edge index length

theorem settled_zero (graph : Graph ν) : graph.Settled 0 [] := by
  intro index
  simp

theorem Settled.succ {graph : Graph ν} {depth : Nat} {done : List Nat} (settled : graph.Settled depth done) :
    graph.Settled (depth + 1) (done ++ graph.level depth) := by
  intro index
  rw [List.mem_append, settled, mem_level, ← and_or_left]
  refine and_congr_right fun _ => ?_
  constructor
  · rintro (⟨length, small, longest⟩ | longest)
    · exact ⟨length, by omega, longest⟩
    · exact ⟨depth, by omega, longest⟩
  · rintro ⟨length, small, longest⟩
    rcases Nat.lt_or_eq_of_le (Nat.le_of_lt_succ small) with lower | rfl
    · exact .inl ⟨length, lower, longest⟩
    · exact .inr longest

theorem Settled.append_nodup {graph : Graph ν} {depth : Nat} {done : List Nat}
    (settled : graph.Settled depth done) (distinct : done.Nodup) :
    (done ++ graph.level depth).Nodup := by
  refine List.nodup_append'.mpr ⟨distinct, graph.level_nodup depth, ?_⟩
  intro index known here
  obtain ⟨-, length, small, longest⟩ := (settled index).mp known
  exact absurd (longest.unique (mem_level.mp here).2) (Nat.ne_of_lt small)

/-- What is ready when all lower levels are done is the next level. -/
theorem ready_eq_level {graph : Graph ν} (wellFormed : graph.WellFormed) {waiting done : List Nat}
    (waits : graph.Waits waiting done) {depth : Nat} (settled : graph.Settled depth done) :
    graph.ready waiting done = graph.level depth := by
  have same : ∀ index, index ∈ graph.ready waiting done ↔ index ∈ graph.level depth := by
    intro index
    rw [mem_ready waits, mem_level, LongestChain.iff_step]
    refine and_congr_right fun inside => and_congr ?_ ?_
    · rw [settled, and_iff_right inside]
    · refine forall_congr' fun other => imp_congr_right fun edge => ?_
      rw [settled, and_iff_right (wellFormed.inside edge).2]
  unfold ready level at same ⊢
  refine List.filter_congr fun index listed => ?_
  have here := same index
  rw [List.mem_filter, List.mem_filter, and_iff_right listed, and_iff_right listed] at here
  exact Bool.eq_iff_iff.mpr here

theorem exists_missing {done : List Nat} {size : Nat} (few : done.length < size) :
    ∃ index < size, index ∉ done := by
  by_contra full
  have all : List.range size ⊆ done := by
    intro index listed
    by_contra missing
    exact full ⟨index, List.mem_range.mp listed, missing⟩
  have := (List.subperm_of_subset List.nodup_range all).length_le
  rw [List.length_range] at this
  omega

theorem mem_of_length_le {done : List Nat} {size : Nat} (distinct : done.Nodup)
    (within : ∀ index ∈ done, index < size) (full : size ≤ done.length) {index : Nat}
    (inside : index < size) : index ∈ done := by
  have included : done ⊆ List.range size := fun place listed => List.mem_range.mpr (within place listed)
  have same : done.Perm (List.range size) :=
    (List.subperm_of_subset distinct included).perm_of_length_le (by rwa [List.length_range])
  exact same.mem_iff.mpr (List.mem_range.mpr inside)

/-- What the layers above the places done are: the levels, none of them empty, up to the longest chain
of all. -/
structure Levels (graph : Graph ν) (depth : Nat) (layers : List (List Nat)) : Prop where
  layers_eq : layers = (List.range' depth layers.length).map graph.level
  nonempty : [] ∉ layers
  all : ∀ index < graph.size, ∃ length < depth + layers.length, LongestChain graph.Edge index length

/-- Each round adds one level, and rounds go on while a place is missing. -/
theorem exists_layersFrom {graph : Graph ν} (wellFormed : graph.WellFormed) (acyclic : graph.Acyclic)
    {waiting done : List Nat} (waits : graph.Waits waiting done) {depth : Nat}
    (settled : graph.Settled depth done) (distinct : done.Nodup) :
    ∃ layers, graph.layersFrom waiting done = .ok layers ∧ graph.Levels depth layers := by
  fun_induction graph.layersFrom waiting done generalizing depth with
  | case1 waiting done few none =>
    obtain ⟨index, inside, missing⟩ := exists_missing few
    exact absurd none (ready_ne_nil wellFormed acyclic waits inside missing)
  | case2 waiting done few first others found layer ih =>
    have layer_eq : layer = graph.level depth :=
      found.symm.trans (ready_eq_level wellFormed waits settled)
    rw [layer_eq] at ih ⊢
    have apart := settled.append_nodup distinct
    obtain ⟨rest, rest_eq, levels⟩ := ih (waits.releaseAll apart) settled.succ apart
    refine ⟨graph.level depth :: rest, by rw [rest_eq]; rfl, ?_, ?_, ?_⟩
    · rw [List.length_cons, List.range'_succ, List.map_cons, ← levels.layers_eq]
    · rw [List.mem_cons, not_or]
      refine ⟨?_, levels.nonempty⟩
      rw [← layer_eq]
      exact nofun
    · intro index inside
      obtain ⟨length, small, longest⟩ := levels.all index inside
      exact ⟨length, by rw [List.length_cons]; omega, longest⟩
  | case3 waiting done full =>
    refine ⟨[], rfl, rfl, List.not_mem_nil, fun index inside => ?_⟩
    have known := mem_of_length_le distinct (fun place listed => ((settled place).mp listed).1)
      (Nat.le_of_not_lt full) inside
    exact ((settled index).mp known).2

theorem exists_layerIndices {graph : Graph ν} (wellFormed : graph.WellFormed) (acyclic : graph.Acyclic) :
    ∃ layers, graph.layerIndices = .ok layers ∧ graph.Levels 0 layers :=
  exists_layersFrom wellFormed acyclic graph.waits_dependencyCounts graph.settled_zero List.nodup_nil

/-! ### Order -/

namespace Levels

variable {graph : Graph ν} {layers : List (List Nat)}

theorem mem_flatten (levels : graph.Levels 0 layers) {index : Nat} :
    index ∈ layers.flatten ↔ index < graph.size := by
  rw [levels.layers_eq]
  simp only [List.mem_flatten, List.mem_map, exists_exists_and_eq_and, mem_level, List.mem_range'_1]
  constructor
  · rintro ⟨depth, -, inside, -⟩
    exact inside
  · intro inside
    obtain ⟨depth, small, longest⟩ := levels.all index inside
    exact ⟨depth, ⟨Nat.zero_le depth, small⟩, inside, longest⟩

/-- No place depends on one that stands behind it, or on itself. -/
theorem pairwise (levels : graph.Levels 0 layers) :
    layers.flatten.Pairwise fun index other => ¬graph.Edge index other ∧ index ≠ other := by
  have apart {depth length index other : Nat} (most : depth ≤ length) (here : index ∈ graph.level depth)
      (there : other ∈ graph.level length) : ¬graph.Edge index other := by
    intro edge
    obtain ⟨lower, small, longest⟩ := (mem_level.mp here).2.step edge
    have := longest.unique (mem_level.mp there).2
    omega
  rw [levels.layers_eq, List.pairwise_flatten, List.pairwise_map]
  constructor
  · intro layer listed
    obtain ⟨depth, -, rfl⟩ := List.mem_map.mp listed
    refine (graph.level_nodup depth).imp_of_mem fun here there different => ?_
    exact ⟨apart (le_refl depth) here there, different⟩
  · refine (List.pairwise_lt_range' ..).imp fun below index here other there => ?_
    refine ⟨apart (Nat.le_of_lt below) here there, ?_⟩
    rintro rfl
    exact absurd ((mem_level.mp here).2.unique (mem_level.mp there).2) (Nat.ne_of_lt below)

theorem nodup (levels : graph.Levels 0 layers) : layers.flatten.Nodup :=
  levels.pairwise.imp And.right

/-- Each place stands behind those that it depends on. -/
theorem mem_before (levels : graph.Levels 0 layers) (wellFormed : graph.WellFormed)
    (acyclic : graph.Acyclic) {before after : List Nat} {index other : Nat}
    (split : layers.flatten = before ++ index :: after) (edge : graph.Edge index other) :
    other ∈ before := by
  have listed : other ∈ before ++ index :: after :=
    split ▸ levels.mem_flatten.mpr (wellFormed.inside edge).2
  have ordered := levels.pairwise
  rw [split, List.pairwise_append, List.pairwise_cons] at ordered
  rcases List.mem_append.mp listed with front | back
  · exact front
  · rcases List.mem_cons.mp back with rfl | later
    · exact absurd (.single edge) (acyclic other)
    · exact absurd edge (ordered.2.1.1 other later).1

end Levels

/-! ### Nodes -/

theorem mem_nodesAt {graph : Graph ν} {places : List Nat} {node : ν} :
    node ∈ graph.nodesAt places ↔ ∃ index ∈ places, graph.nodes[index]? = some node := by
  unfold nodesAt
  exact List.mem_filterMap

theorem nodesAt_flatten (graph : Graph ν) (layers : List (List Nat)) :
    (layers.map graph.nodesAt).flatten = graph.nodesAt layers.flatten := by
  unfold nodesAt
  rw [List.filterMap_flatten]

/-- A graph without a reported cycle has layers, the nodes of its levels. -/
theorem exists_layers {graph : Graph ν} {name : ν → String} (wellFormed : graph.WellFormed)
    (passed : graph.checkAcyclic name = .ok ()) :
    ∃ layers, graph.Levels 0 layers ∧ graph.layers name = .ok (layers.map graph.nodesAt) := by
  obtain ⟨layers, layers_eq, levels⟩ :=
    exists_layerIndices wellFormed (acyclic_of_checkAcyclic wellFormed passed)
  refine ⟨layers, levels, ?_⟩
  unfold Graph.layers
  rw [passed, ok_bind, layers_eq]
  rfl

variable [DecidableEq ν]

theorem mem_dependencies {graph : Graph ν} (wellFormed : graph.WellFormed) {node dependency : ν} :
    dependency ∈ graph.dependencies node ↔
      ∃ index other, graph.nodes[index]? = some node ∧ graph.nodes[other]? = some dependency ∧
        graph.Edge index other := by
  unfold dependencies sortedSuccessors
  constructor
  · intro listed
    cases found : graph.indexOf? node with
    | none => simp [found] at listed
    | some index =>
      rw [found] at listed
      obtain ⟨other, successor, stands⟩ := mem_nodesAt.mp listed
      exact ⟨index, other, (indexOf?_eq_some wellFormed).mp found, stands,
        mem_successors.mp (List.mem_mergeSort.mp successor)⟩
  · rintro ⟨index, other, nodeStands, stands, edge⟩
    rw [(indexOf?_eq_some wellFormed).mpr nodeStands]
    exact mem_nodesAt.mpr ⟨other, List.mem_mergeSort.mpr (mem_successors.mpr edge), stands⟩

/-- The layers of a graph list every node once, behind the nodes that it depends on. -/
theorem layers_spec {graph : Graph ν} {name : ν → String} (wellFormed : graph.WellFormed)
    {layers : List (List ν)} (built : graph.layers name = .ok layers) :
    layers.flatten.Nodup ∧ (∀ node, node ∈ layers.flatten ↔ node ∈ graph.nodes) ∧
      ∀ before node after, layers.flatten = before ++ node :: after →
        ∀ dependency ∈ graph.dependencies node, dependency ∈ before := by
  obtain ⟨_, passed, -⟩ := bind_eq_ok.mp built
  obtain ⟨places, levels, places_eq⟩ := exists_layers wellFormed passed
  obtain rfl := Except.ok.inj (places_eq.symm.trans built)
  rw [nodesAt_flatten]
  refine ⟨?_, fun node => ?_, ?_⟩
  · refine levels.nodup.filterMap ?_
    intro index other node stands otherStands
    exact wellFormed.index_unique stands otherStands
  · rw [mem_nodesAt]
    constructor
    · rintro ⟨index, -, stands⟩
      exact List.mem_of_getElem? stands
    · intro listed
      obtain ⟨index, inside, stands⟩ := List.getElem_of_mem listed
      exact ⟨index, levels.mem_flatten.mpr inside, List.getElem?_eq_some_iff.mpr ⟨inside, stands⟩⟩
  · intro before node after split dependency dependent
    obtain ⟨index, other, stands, otherStands, edge⟩ := (mem_dependencies wellFormed).mp dependent
    obtain ⟨front, back, order_eq, rfl, back_eq⟩ := List.filterMap_eq_append_iff.mp split
    obtain ⟨skipped, place, rest, rfl, none, placeStands, -⟩ := List.filterMap_eq_cons_iff.mp back_eq
    obtain rfl := wellFormed.index_unique stands placeStands
    rw [← List.append_assoc] at order_eq
    have placed := levels.mem_before wellFormed (acyclic_of_checkAcyclic wellFormed passed) order_eq edge
    rcases List.mem_append.mp placed with inFront | inSkipped
    · exact List.mem_filterMap.mpr ⟨other, inFront, otherStands⟩
    · exact absurd (none other inSkipped) (by simp [otherStands])

end CubeQuery.Graph
