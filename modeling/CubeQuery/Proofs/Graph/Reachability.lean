import CubeQuery.Graph.Cycle
import Mathlib.Logic.Relation

/-! The bounded searches of a graph find what they look for. An exploration finds exactly the places
at the end of a path, a depth-first search finishes every place, and so a graph in which no cycle is
reported has none. -/

namespace CubeQuery.Graph

open Relation

variable {ν : Type}

/-- The first place depends on the second. -/
def Edge (graph : Graph ν) (consumer dependency : Nat) : Prop :=
  (consumer, dependency) ∈ graph.edges

theorem mem_successors {graph : Graph ν} {index other : Nat} :
    other ∈ graph.successors index ↔ graph.Edge index other := by
  unfold successors Edge
  simp only [List.mem_map, List.mem_filter, decide_eq_true_eq]
  constructor
  · rintro ⟨⟨first, second⟩, ⟨listed, rfl⟩, rfl⟩
    exact listed
  · intro listed
    exact ⟨(index, other), ⟨listed, rfl⟩, rfl⟩

theorem length_successors (graph : Graph ν) (index : Nat) :
    (graph.successors index).length = (graph.edges.filter (·.1 = index)).length :=
  List.length_map _

/-- Nodes stand at one place each, and edges lead between places of nodes. -/
structure WellFormed (graph : Graph ν) : Prop where
  distinct : graph.nodes.Nodup
  inside : ∀ {consumer dependency}, graph.Edge consumer dependency →
    consumer < graph.size ∧ dependency < graph.size

/-- No path leads back to where it starts. -/
def Acyclic (graph : Graph ν) : Prop := ∀ index, ¬ TransGen graph.Edge index index

/-! ### Exploration -/

/-- The edges that an exploration has still to follow. -/
def unexplored (graph : Graph ν) (found : List Nat) : List (Nat × Nat) :=
  graph.edges.filter fun edge => !found.contains edge.1

/-- Each look at a place uses up one unit: a new place trades its edges for pending places. -/
theorem length_unexplored_cons (graph : Graph ν) (found : List Nat) (place : Nat)
    (new : place ∉ found) :
    (graph.unexplored (place :: found)).length + (graph.successors place).length =
      (graph.unexplored found).length := by
  rw [length_successors]
  unfold unexplored
  induction graph.edges with
  | nil => rfl
  | cons edge rest ih =>
    by_cases here : edge.1 = place
    · simp [here, new] at ih ⊢
      omega
    · by_cases seen : edge.1 ∈ found
      · simpa [here, seen] using ih
      · simp [here, seen] at ih ⊢
        omega

theorem explore_grows (graph : Graph ν) (bound : Nat) (pending found : List Nat) :
    found ⊆ graph.explore bound pending found := by
  induction bound generalizing pending found with
  | zero => exact fun _ listed => listed
  | succ bound ih =>
    cases pending with
    | nil => exact fun _ listed => listed
    | cons place rest =>
      unfold explore
      by_cases seen : found.contains place = true
      · rw [if_pos seen]
        exact ih rest found
      · rw [if_neg seen]
        exact fun _ listed => ih _ _ (List.mem_cons_of_mem _ listed)

/-- With enough units nothing is left pending, and what was found is closed under edges. -/
theorem explore_complete (graph : Graph ν) (bound : Nat) (pending found : List Nat)
    (enough : pending.length + (graph.unexplored found).length < bound)
    (covered : ∀ place ∈ found, ∀ other, graph.Edge place other → other ∈ found ∨ other ∈ pending) :
    pending ⊆ graph.explore bound pending found ∧
      ∀ place ∈ graph.explore bound pending found, ∀ other, graph.Edge place other →
        other ∈ graph.explore bound pending found := by
  induction bound generalizing pending found with
  | zero => omega
  | succ bound ih =>
    cases pending with
    | nil =>
      refine ⟨List.nil_subset _, fun place listed other edge => ?_⟩
      exact (covered place listed other edge).resolve_right List.not_mem_nil
    | cons place rest =>
      unfold explore
      by_cases seen : place ∈ found
      · rw [if_pos (List.contains_iff_mem.mpr seen)]
        have known : ∀ first ∈ found, ∀ other, graph.Edge first other → other ∈ found ∨ other ∈ rest := by
          intro first listed other edge
          rcases covered first listed other edge with known | pending
          · exact .inl known
          · rcases List.mem_cons.mp pending with rfl | later
            · exact .inl seen
            · exact .inr later
        obtain ⟨included, closed⟩ := ih rest found (by simp only [List.length_cons] at enough; omega)
          known
        exact ⟨List.cons_subset.mpr ⟨explore_grows graph bound rest found seen, included⟩, closed⟩
      · rw [if_neg (fun known => seen (List.contains_iff_mem.mp known))]
        have units := length_unexplored_cons graph found place seen
        have known : ∀ first ∈ place :: found, ∀ other, graph.Edge first other →
            other ∈ place :: found ∨ other ∈ graph.successors place ++ rest := by
          intro first listed other edge
          rcases List.mem_cons.mp listed with rfl | earlier
          · exact .inr (List.mem_append_left _ (mem_successors.mpr edge))
          · rcases covered first earlier other edge with known | pending
            · exact .inl (List.mem_cons_of_mem _ known)
            · rcases List.mem_cons.mp pending with rfl | later
              · exact .inl List.mem_cons_self
              · exact .inr (List.mem_append_right _ later)
        obtain ⟨included, closed⟩ := ih (graph.successors place ++ rest) (place :: found)
          (by simp only [List.length_cons, List.length_append] at enough ⊢; omega) known
        refine ⟨List.cons_subset.mpr ⟨?_, ?_⟩, closed⟩
        · exact explore_grows graph bound _ _ List.mem_cons_self
        · exact (List.append_subset.mp included).2

theorem explore_sound (graph : Graph ν) (bound : Nat) (pending found : List Nat) (target : Nat)
    (reached : target ∈ graph.explore bound pending found) :
    target ∈ found ∨ ∃ place ∈ pending, ReflTransGen graph.Edge place target := by
  induction bound generalizing pending found with
  | zero => exact .inl reached
  | succ bound ih =>
    cases pending with
    | nil => exact .inl reached
    | cons place rest =>
      unfold explore at reached
      by_cases seen : found.contains place = true
      · rw [if_pos seen] at reached
        rcases ih rest found reached with known | ⟨other, listed, path⟩
        · exact .inl known
        · exact .inr ⟨other, List.mem_cons_of_mem _ listed, path⟩
      · rw [if_neg seen] at reached
        rcases ih _ _ reached with known | ⟨other, listed, path⟩
        · rcases List.mem_cons.mp known with rfl | earlier
          · exact .inr ⟨target, List.mem_cons_self, .refl⟩
          · exact .inl earlier
        · rcases List.mem_append.mp listed with next | later
          · exact .inr ⟨place, List.mem_cons_self, .head (mem_successors.mp next) path⟩
          · exact .inr ⟨other, List.mem_cons_of_mem _ later, path⟩

/-- The reachable places are those at the end of a path of one or more edges. -/
theorem mem_reachable {graph : Graph ν} {index other : Nat} :
    other ∈ graph.reachable index ↔ TransGen graph.Edge index other := by
  unfold reachable
  constructor
  · intro reached
    rcases explore_sound graph _ _ _ _ reached with impossible | ⟨first, listed, path⟩
    · exact absurd impossible List.not_mem_nil
    · exact .head' (mem_successors.mp listed) path
  · intro path
    have few : (graph.successors index).length ≤ graph.edges.length := by
      rw [length_successors]
      exact List.length_filter_le _ _
    have all : (graph.unexplored []).length ≤ graph.edges.length := List.length_filter_le _ _
    obtain ⟨included, closed⟩ := explore_complete graph (2 * graph.edges.length + 1)
      (graph.successors index) [] (by omega) (fun _ listed => absurd listed List.not_mem_nil)
    induction path with
    | single edge => exact included (mem_successors.mpr edge)
    | tail _ edge ih => exact closed _ ih _ edge

/-! ### Depth-first search -/

/-- What a search adds to its state: every place that it enters it also finishes. -/
structure Search.Extends (before after : Search) : Prop where
  entered : before.entered ⊆ after.entered
  finished : before.finished ⊆ after.finished
  left : ∀ place ∈ after.entered, place ∈ before.entered ∨ place ∈ after.finished

theorem Search.Extends.refl (state : Search) : state.Extends state :=
  ⟨fun _ => id, fun _ => id, fun _ listed => .inl listed⟩

theorem Search.Extends.trans {first second third : Search} (start : first.Extends second)
    (rest : second.Extends third) : first.Extends third where
  entered := List.Subset.trans start.entered rest.entered
  finished := List.Subset.trans start.finished rest.finished
  left := by
    intro place listed
    rcases rest.left place listed with earlier | done
    · rcases start.left place earlier with known | done
      · exact .inl known
      · exact .inr (rest.finished done)
    · exact .inr done

theorem Search.Extends.finish {state inner : Search} {index : Nat}
    (below : Extends { state with entered := index :: state.entered } inner) :
    state.Extends { inner with finished := index :: inner.finished } where
  entered := fun _ listed => below.entered (List.mem_cons_of_mem _ listed)
  finished := fun _ listed => List.mem_cons_of_mem _ (below.finished listed)
  left := by
    intro place listed
    rcases below.left place listed with known | done
    · rcases List.mem_cons.mp known with rfl | earlier
      · exact .inr List.mem_cons_self
      · exact .inl earlier
    · exact .inr (List.mem_cons_of_mem _ done)

/-- The visit of one place, with a search of its successors below it. -/
def visit (graph : Graph ν) (depth : Nat) (state : Search) (index : Nat) : Search :=
  if state.entered.contains index then state
  else
    let inner := graph.search depth (graph.successors index).reverse
      { state with entered := index :: state.entered }
    { inner with finished := index :: inner.finished }

theorem search_succ (graph : Graph ν) (depth : Nat) (places : List Nat) (state : Search) :
    graph.search (depth + 1) places state = places.foldl (graph.visit depth) state := rfl

theorem visit_extends (graph : Graph ν) (depth : Nat) (state : Search) (index : Nat)
    (below : ∀ places state, Search.Extends state (graph.search depth places state)) :
    state.Extends (graph.visit depth state index) ∧ index ∈ (graph.visit depth state index).entered := by
  unfold visit
  by_cases seen : index ∈ state.entered
  · rw [if_pos (List.contains_iff_mem.mpr seen)]
    exact ⟨.refl state, seen⟩
  · rw [if_neg (fun known => seen (List.contains_iff_mem.mp known))]
    have inner := below (graph.successors index).reverse
      { state with entered := index :: state.entered }
    exact ⟨inner.finish, inner.entered List.mem_cons_self⟩

theorem foldl_visit_extends (graph : Graph ν) (depth : Nat) (places : List Nat) (state : Search)
    (below : ∀ places state, Search.Extends state (graph.search depth places state)) :
    state.Extends (places.foldl (graph.visit depth) state) ∧
      places ⊆ (places.foldl (graph.visit depth) state).entered := by
  induction places generalizing state with
  | nil => exact ⟨.refl state, List.nil_subset _⟩
  | cons index rest ih =>
    rw [List.foldl_cons]
    obtain ⟨first, entered⟩ := graph.visit_extends depth state index below
    obtain ⟨others, all⟩ := ih (graph.visit depth state index)
    exact ⟨first.trans others, List.cons_subset.mpr ⟨others.entered entered, all⟩⟩

theorem search_extends (graph : Graph ν) (depth : Nat) (places : List Nat) (state : Search) :
    state.Extends (graph.search depth places state) := by
  induction depth generalizing places state with
  | zero => exact .refl state
  | succ depth ih =>
    rw [search_succ]
    exact (graph.foldl_visit_extends depth places state ih).1

/-- A search of the whole graph finishes every place, whatever its bound on the depth. -/
theorem mem_finishOrder (graph : Graph ν) {index : Nat} (inside : index < graph.size) :
    index ∈ graph.finishOrder := by
  unfold finishOrder
  rw [List.mem_reverse, search_succ]
  obtain ⟨extended, entered⟩ := graph.foldl_visit_extends graph.size graph.indices ⟨[], []⟩
    (graph.search_extends graph.size)
  have visited := entered (List.mem_range.mpr inside)
  exact (extended.left index visited).resolve_left List.not_mem_nil

/-! ### Cycles -/

theorem reaches_reachTable (graph : Graph ν) {index other : Nat} (inside : index < graph.size) :
    reaches graph.reachTable index other = true ↔ TransGen graph.Edge index other := by
  unfold reaches reachTable indices
  rw [List.getElem?_map, List.getElem?_range inside, Option.map_some, Option.getD_some,
    List.contains_iff_mem, mem_reachable]

theorem mem_component (graph : Graph ν) {index other : Nat} (inside : index < graph.size) :
    other ∈ component graph.reachTable index ↔
      other < graph.size ∧ TransGen graph.Edge index other ∧ TransGen graph.Edge other index := by
  unfold component
  rw [List.mem_filter, List.mem_range, Bool.and_eq_true]
  have same : graph.reachTable.length = graph.size := by simp [reachTable, indices]
  rw [same]
  constructor
  · rintro ⟨below, forth, back⟩
    exact ⟨below, (graph.reaches_reachTable inside).mp forth, (graph.reaches_reachTable below).mp back⟩
  · rintro ⟨below, forth, back⟩
    exact ⟨below, (graph.reaches_reachTable inside).mpr forth,
      (graph.reaches_reachTable below).mpr back⟩

theorem WellFormed.inside_of_path {graph : Graph ν} (wellFormed : graph.WellFormed) {index other : Nat}
    (path : TransGen graph.Edge index other) : index < graph.size := by
  obtain ⟨next, edge, -⟩ := TransGen.head'_iff.mp path
  exact (wellFormed.inside edge).1

/-- If some listed place lies on a cycle, the last such place closes its cycle. -/
theorem firstClosed_isSome {graph : Graph ν} (wellFormed : graph.WellFormed) (order : List Nat)
    (cyclic : ∃ index ∈ order, TransGen graph.Edge index index) :
    (firstClosed graph.reachTable order).isSome = true := by
  induction order with
  | nil =>
    obtain ⟨index, listed, -⟩ := cyclic
    exact absurd listed List.not_mem_nil
  | cons first rest ih =>
    unfold firstClosed
    by_cases later : ∃ other ∈ rest, TransGen graph.Edge other other
    · split
      · rfl
      · exact ih later
    · obtain ⟨index, listed, cycle⟩ := cyclic
      have last : index = first := by
        rcases List.mem_cons.mp listed with same | indexLater
        · exact same
        · exact absurd ⟨index, indexLater, cycle⟩ later
      rw [last] at cycle
      have inside := wellFormed.inside_of_path cycle
      have onCycle_first : onCycle graph.reachTable first = true :=
        (graph.reaches_reachTable inside).mpr cycle
      have alone : rest.any (component graph.reachTable first).contains = false := by
        rw [List.any_eq_false]
        intro other otherListed together
        obtain ⟨-, forth, back⟩ := (graph.mem_component inside).mp (List.contains_iff_mem.mp together)
        exact later ⟨other, otherListed, back.trans forth⟩
      rw [onCycle_first, alone]
      rfl

theorem acyclic_of_checkAcyclic {graph : Graph ν} {name : ν → String} (wellFormed : graph.WellFormed)
    (passed : graph.checkAcyclic name = .ok ()) : graph.Acyclic := by
  intro index cycle
  have reported := firstClosed_isSome wellFormed graph.finishOrder
    ⟨index, graph.mem_finishOrder (wellFormed.inside_of_path cycle), cycle⟩
  unfold checkAcyclic reportedCycle? at passed
  obtain ⟨place, found⟩ := Option.isSome_iff_exists.mp reported
  simp [found] at passed

end CubeQuery.Graph
