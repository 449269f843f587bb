import CubeQuery.Proofs.Graph.Calls
import Mathlib.Data.List.Permutation

/-! What is reported of a graph that has cycles: all nodes that lie on a common cycle, in the order in
which they are mentioned first, and the first of them once more. Each of them leads to the one behind it.
Whether it also depends on that one directly is a matter of the order of the calls. -/

namespace CubeQuery.Graph

open List Relation

variable {ν : Type}

/-! ### Places -/

theorem onCycle_of_firstClosed {table : List (List Nat)} {order : List Nat} {index : Nat}
    (found : firstClosed table order = some index) : onCycle table index = true := by
  induction order with
  | nil => cases found
  | cons first rest ih =>
    unfold firstClosed at found
    split at found
    next closed =>
      obtain rfl := Option.some.inj found
      exact (Bool.and_eq_true_iff.mp closed).1
    · exact ih found

theorem path_of_onCycle {graph : Graph ν} {index : Nat} (cycle : onCycle graph.reachTable index = true) :
    index < graph.size ∧ TransGen graph.Edge index index := by
  by_cases inside : index < graph.size
  · exact ⟨inside, (graph.reaches_reachTable inside).mp cycle⟩
  · simp [onCycle, reaches, reachTable, indices, inside] at cycle

/-- The check passes if every edge leads to a later place. -/
theorem checkAcyclic_of_ascending [DecidableEq ν] {graph : Graph ν} (name : ν → String)
    (ascending : ∀ edge ∈ graph.edges, edge.1 < edge.2) : graph.checkAcyclic name = .ok () := by
  have later {index other : Nat} (path : TransGen graph.Edge index other) : index < other := by
    induction path with
    | single edge => exact ascending _ edge
    | tail _ edge before => exact before.trans (ascending _ edge)
  have unclosed : firstClosed graph.reachTable graph.finishOrder = none := by
    apply Option.eq_none_iff_forall_ne_some.mpr
    intro index found
    exact lt_irrefl index (later (path_of_onCycle (onCycle_of_firstClosed found)).2)
  unfold checkAcyclic reportedCycle?
  simp only [unclosed, Option.map_none]

theorem filterMap_filter_range {nodes : List ν} {keep : Nat → Bool} {kept : ν → Bool}
    (same : ∀ index node, nodes[index]? = some node → keep index = kept node) :
    ((range nodes.length).filter keep).filterMap (nodes[·]?) = nodes.filter kept := by
  induction nodes using reverseRecOn with
  | nil => rfl
  | append_singleton nodes last ih =>
    have before : ∀ index < nodes.length, (nodes ++ [last])[index]? = nodes[index]? :=
      fun index inside => getElem?_append_left inside
    rw [length_append, length_singleton, range_succ, filter_append, filterMap_append, filter_append]
    congr 1
    · rw [← ih fun index node stands => same index node ?_]
      · exact filterMap_congr fun index listed => before index (mem_range.mp (mem_of_mem_filter listed))
      · rw [before index (List.getElem?_eq_some_iff.mp stands).1, stands]
    · have last_same := same nodes.length last getElem?_concat_length
      cases keeps : kept last with
      | true => simp [last_same, keeps]
      | false => simp [last_same, keeps]

/-- Nodes at the places that are kept are the nodes that are kept. -/
theorem nodesAt_filter {graph : Graph ν} {keep : Nat → Bool} {kept : ν → Bool}
    (same : ∀ index node, graph.nodes[index]? = some node → keep index = kept node) :
    graph.nodesAt (graph.indices.filter keep) = graph.nodes.filter kept :=
  filterMap_filter_range same

/-! ### Components -/

/-- The two nodes lie on a common cycle. -/
def Together (calls : List (Call ν)) (node other : ν) : Prop :=
  TransGen (DependsOn calls) node other ∧ TransGen (DependsOn calls) other node

theorem Together.same {calls : List (Call ν)} {node other : ν} (together : Together calls node other)
    (third : ν) : Together calls node third ↔ Together calls other third := by
  constructor
  · rintro ⟨forth, back⟩
    exact ⟨together.2.trans forth, back.trans together.1⟩
  · rintro ⟨forth, back⟩
    exact ⟨together.1.trans forth, back.trans together.2⟩

/-- Of two nodes that no third one lies on a cycle with, each depends directly on the other. -/
theorem direct_of_pair {calls : List (Call ν)} {node other : ν} (path : TransGen (DependsOn calls) node other)
    (back : TransGen (DependsOn calls) other node)
    (only : ∀ third, Together calls node third → third = node ∨ third = other) :
    DependsOn calls node other := by
  induction path with
  | single depends => exact depends
  | tail before depends ih =>
    -- The node before the last lies on the common cycle too, so it is one of the two.
    rcases only _ ⟨before, .head depends back⟩ with rfl | rfl
    · exact depends
    · exact ih back only

variable [DecidableEq ν]

open Classical in
/-- The nodes that lie on a common cycle with a node, in the order in which they are mentioned first. -/
noncomputable def cycleThrough (calls : List (Call ν)) (node : ν) : List ν :=
  (mentioned calls).filter fun other => Together calls node other

theorem mem_cycleThrough {calls : List (Call ν)} {node other : ν} :
    other ∈ cycleThrough calls node ↔ Together calls node other := by
  unfold cycleThrough
  simp only [mem_filter, decide_eq_true_eq, and_iff_right_iff_imp]
  rintro ⟨-, back⟩
  obtain ⟨next, depends, -⟩ := TransGen.head'_iff.mp back
  have records := ofCalls_records calls
  exact records.nodes ▸ (records.mem_nodes depends).1

theorem Together.cycleThrough_eq {calls : List (Call ν)} {node other : ν}
    (together : Together calls node other) : cycleThrough calls node = cycleThrough calls other := by
  unfold cycleThrough
  exact filter_congr fun third _ => decide_eq_decide.mpr (together.same third)

theorem Records.nodesAt_component {graph : Graph ν} {calls : List (Call ν)} (records : graph.Records calls)
    {index : Nat} {node : ν} (stands : graph.nodes[index]? = some node) :
    graph.nodesAt (component graph.reachTable index) = cycleThrough calls node := by
  have inside : index < graph.size := (List.getElem?_eq_some_iff.mp stands).1
  have size_eq : graph.reachTable.length = graph.size := by simp [reachTable, indices]
  unfold component cycleThrough
  rw [size_eq, ← records.nodes]
  refine nodesAt_filter fun other third otherStands => ?_
  have otherInside : other < graph.size := (List.getElem?_eq_some_iff.mp otherStands).1
  apply Bool.eq_iff_iff.mpr
  simp only [Bool.and_eq_true, decide_eq_true_eq, graph.reaches_reachTable inside,
    graph.reaches_reachTable otherInside, records.path_iff stands otherStands,
    records.path_iff otherStands stands]
  rfl

/-! ### The report -/

/-- The check passes when there is no cycle, and else reports the nodes of one component. -/
theorem Records.checkAcyclic_cases {graph : Graph ν} {calls : List (Call ν)}
    (records : graph.Records calls) (name : ν → String) :
    ¬Cyclic calls ∧ graph.checkAcyclic name = .ok () ∨
      ∃ first rest, cycleThrough calls first = first :: rest ∧
        graph.checkAcyclic name = .error (.cyclicDependency ((first :: rest ++ [first]).map name)) := by
  unfold checkAcyclic reportedCycle?
  dsimp only
  cases found : firstClosed graph.reachTable graph.finishOrder with
  | none =>
    have passed : graph.checkAcyclic name = .ok () := by simp [checkAcyclic, reportedCycle?, found]
    exact .inl ⟨records.acyclic_iff.mp (acyclic_of_checkAcyclic records.wellFormed passed), rfl⟩
  | some index =>
    obtain ⟨inside, cycle⟩ := path_of_onCycle (onCycle_of_firstClosed found)
    obtain ⟨node, stands⟩ : ∃ node, graph.nodes[index]? = some node := ⟨_, getElem?_eq_getElem inside⟩
    have nodeCycle := (records.path_iff stands stands).mp cycle
    have self : node ∈ cycleThrough calls node := mem_cycleThrough.mpr ⟨nodeCycle, nodeCycle⟩
    obtain ⟨first, rest, members⟩ := exists_cons_of_ne_nil (ne_nil_of_mem self)
    -- The search closes the component at some node of it; the report starts at the first.
    have together : Together calls node first := mem_cycleThrough.mp (members ▸ mem_cons_self)
    refine .inr ⟨first, rest, together.cycleThrough_eq ▸ members, ?_⟩
    rw [Option.map_some, records.nodesAt_component stands, members]
    rfl

/-- The nodes of a component in any order, and back to the first: each leads to the one behind it. -/
theorem isChain_together {calls : List (Call ν)} {first : ν} {rest : List ν}
    (members : cycleThrough calls first = first :: rest) :
    IsChain (TransGen (DependsOn calls)) (first :: rest ++ [first]) := by
  have inside : ∀ node ∈ first :: rest ++ [first], Together calls first node := by
    intro node listed
    refine mem_cycleThrough.mp (members ▸ ?_)
    simpa [or_comm] using listed
  refine (pairwise_of_forall_mem_list fun node here other there => ?_).isChain
  exact (inside node here).2.trans (inside other there).1

/-- The nodes reported are those of one component in the order of their first mention. So each leads to
the one behind it. It depends on that one directly in a component of one or two nodes, and else only if
the order is that of a cycle. -/
theorem checkAcyclic_reports_component {calls : List (Call ν)} (cyclic : Cyclic calls) (name : ν → String) :
    ∃ first rest, cycleThrough calls first = first :: rest ∧
      (ofCalls calls).checkAcyclic name = .error (.cyclicDependency ((first :: rest ++ [first]).map name)) ∧
      IsChain (TransGen (DependsOn calls)) (first :: rest ++ [first]) ∧
      (∀ node ∈ first :: rest, ∃ next ∈ first :: rest, DependsOn calls node next) ∧
      (rest.length ≤ 1 → IsChain (DependsOn calls) (first :: rest ++ [first])) ∧
      (IsChain (DependsOn calls) (first :: rest ++ [first]) ↔
        (∀ node next, [node, next] <:+: cycleThrough calls first → DependsOn calls node next) ∧
          ∀ last ∈ (cycleThrough calls first).getLast?, DependsOn calls last first) := by
  obtain ⟨acyclic, -⟩ | ⟨first, rest, members, reported⟩ :=
    (ofCalls_records calls).checkAcyclic_cases name
  · exact absurd cyclic acyclic
  · have inside : ∀ node, node ∈ first :: rest ↔ Together calls first node := by
      intro node
      rw [← members, mem_cycleThrough]
    refine ⟨first, rest, members, reported, isChain_together members, ?_, ?_, ?_⟩
    · intro node listed
      have together := (inside node).mp listed
      obtain ⟨next, depends, onward⟩ := TransGen.head'_iff.mp (together.2.trans together.1)
      exact ⟨next, (inside next).mpr ⟨together.1.tail depends, .trans_right onward together.2⟩, depends⟩
    · intro few
      have direct : ∀ second ∈ first :: rest, (∀ third ∈ first :: rest, third = first ∨ third = second) →
          DependsOn calls first second ∧ DependsOn calls second first := by
        intro second listed pair
        obtain ⟨forth, back⟩ := (inside second).mp listed
        have only := fun third together => pair third ((inside third).mpr together)
        refine ⟨direct_of_pair forth back only, direct_of_pair back forth fun third together => ?_⟩
        exact (only third ((Together.same ⟨back, forth⟩ third).mp together)).symm
      match rest, few with
      | [], _ => exact isChain_pair.mpr (direct first mem_cons_self (by simp)).1
      | [second], _ =>
        obtain ⟨there, here⟩ := direct second (by simp) (by simp)
        exact .cons_cons there (isChain_pair.mpr here)
    · rw [isChain_append, members, isChain_iff_infix]
      simp

/-- One cycle through three nodes, which are mentioned in another order first. -/
def twistedRing : List (Call String) :=
  [.node "a", .node "b", .node "c", .dependency "a" "c", .dependency "c" "b", .dependency "b" "a"]

theorem twistedRing_reported : Cyclic twistedRing ∧
    (ofCalls twistedRing).checkAcyclic id = .error (.cyclicDependency ["a", "b", "c", "a"]) ∧
    IsChain (TransGen (DependsOn twistedRing)) ["a", "b", "c", "a"] ∧ ¬DependsOn twistedRing "a" "b" := by
  have cyclic : Cyclic twistedRing := by
    have first : DependsOn twistedRing "a" "c" := by simp [DependsOn, twistedRing]
    have second : DependsOn twistedRing "c" "b" := by simp [DependsOn, twistedRing]
    have third : DependsOn twistedRing "b" "a" := by simp [DependsOn, twistedRing]
    exact ⟨"a", .head first (.head second (.single third))⟩
  have evaluated : (ofCalls twistedRing).checkAcyclic id = .error (.cyclicDependency ["a", "b", "c", "a"]) := by
    cbv
  obtain ⟨first, rest, -, reported, chain, -⟩ := checkAcyclic_reports_component cyclic id
  rw [evaluated, map_id] at reported
  have names := QueryError.cyclicDependency.inj (Except.error.inj reported)
  exact ⟨cyclic, evaluated, names ▸ chain, by simp [DependsOn, twistedRing]⟩

end CubeQuery.Graph
