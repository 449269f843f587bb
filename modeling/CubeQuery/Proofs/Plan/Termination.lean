import CubeQuery.Proofs.Plan.DerivedScopes
import CubeQuery.Proofs.Plan.Discovery
import Mathlib.Data.Fintype.BigOperators
import Mathlib.Data.Fintype.Option
import Mathlib.Data.Fintype.Prod

/-! A discovery ends. The scopes that it can find are told apart by a code from a finite set, as many
codes as `Discovery.scopeBound` says, so there are no more nodes than the bound on its steps. -/

namespace CubeQuery

open Steps

/-! ### Codes -/

/-- A list over a pool, from the places of its items. -/
def decodeList {α : Type} (pool : List α) {places fields : Nat} (code : Fin places → Option (Fin fields)) :
    List α :=
  (List.ofFn code).filterMap fun place => place.bind fun index => pool[index.val]?

theorem exists_listCode {α : Type} (pool items : List α) {places fields : Nat}
    (short : items.length ≤ places) (few : pool.length ≤ fields) (within : items ⊆ pool) :
    ∃ code : Fin places → Option (Fin fields), decodeList pool code = items := by
  induction places generalizing items with
  | zero =>
    refine ⟨fun _ => none, ?_⟩
    rw [List.length_eq_zero_iff.mp (Nat.le_zero.mp short)]
    rfl
  | succ places ih =>
    cases items with
    | nil =>
      obtain ⟨code, decoded⟩ := ih [] (Nat.zero_le _) (List.nil_subset _)
      refine ⟨Fin.cons none code, ?_⟩
      unfold decodeList at decoded ⊢
      simpa [List.ofFn_succ] using decoded
    | cons item rest =>
      obtain ⟨listed, restWithin⟩ := List.cons_subset.mp within
      obtain ⟨index, inside, stands⟩ := List.getElem_of_mem listed
      obtain ⟨code, decoded⟩ := ih rest (Nat.le_of_succ_le_succ short) restWithin
      refine ⟨Fin.cons (some ⟨index, Nat.lt_of_lt_of_le inside few⟩) code, ?_⟩
      unfold decodeList at decoded ⊢
      simp [List.ofFn_succ, inside, stands, decoded]

/-- A set over a pool, from a mark at each place. -/
def decodeSet {α : Type} (pool : List α) {places : Nat} (marks : Fin places → Bool) : List α :=
  ((List.finRange places).filter marks).filterMap fun index => pool[index.val]?

theorem exists_setCode {α : Type} [DecidableEq α] (pool items : List α) {places : Nat}
    (few : pool.length ≤ places) (within : items ⊆ pool) :
    ∃ marks : Fin places → Bool, ∀ item, item ∈ decodeSet pool marks ↔ item ∈ items := by
  refine ⟨fun index => (pool[index.val]?).any fun item => decide (item ∈ items), fun item => ?_⟩
  unfold decodeSet
  simp only [List.mem_filterMap, List.mem_filter, List.mem_finRange, true_and]
  constructor
  · rintro ⟨index, marked, stands⟩
    simpa [stands] using marked
  · intro listed
    obtain ⟨index, inside, stands⟩ := List.getElem_of_mem (within listed)
    refine ⟨⟨index, Nat.lt_of_lt_of_le inside few⟩, ?_, ?_⟩
    · simp [inside, stands, listed]
    · simp [inside, stands]

/-! ### Scopes -/

namespace Discovery

theorem scopeBound_pos (arena : Arena) (root : Scope) : 0 < scopeBound arena root :=
  Nat.mul_pos (Nat.mul_pos (Nat.mul_pos Nat.two_pos (Nat.succ_pos _))
    (Nat.pow_pos (Nat.succ_pos _))) (Nat.pow_pos (Nat.succ_pos _))

/-- There is room for one node of each measure. -/
theorem exists_nodeBound_eq (arena : Arena) (root : Scope) :
    ∃ more, nodeBound arena root = more + arena.size :=
  Nat.exists_eq_add_of_le' (Nat.le_mul_of_pos_right _ (scopeBound_pos arena root))

def columnBound (arena : Arena) (root : Scope) : Nat :=
  root.rollup.length + root.columns.length + arena.size

def placeBound (arena : Arena) (root : Scope) : Nat := root.rollup.length + totalAncestors arena

/-- Whether filters are kept, the fields dropped from the criteria, the axes and the rollup. -/
abbrev ScopeCode (arena : Arena) (root : Scope) : Type :=
  ((Bool × Option (Fin (2 * arena.size) → Bool)) × (Fin arena.size → Option (Fin arena.size))) ×
    (Fin (placeBound arena root) → Option (Fin (columnBound arena root)))

theorem card_scopeCode (arena : Arena) (root : Scope) :
    Fintype.card (ScopeCode arena root) = scopeBound arena root := by
  rw [Fintype.card_prod, Fintype.card_prod, Fintype.card_prod, Fintype.card_fun, Fintype.card_fun,
    Fintype.card_option, Fintype.card_option, Fintype.card_option, Fintype.card_fun]
  simp only [Fintype.card_bool, Fintype.card_fin]
  rfl

def decodeScope (arena : Arena) (root : Scope) (code : ScopeCode arena root) : Scope :=
  let axes := decodeList arena.axisFields code.1.2
  Scope.Derivation.apply
    ⟨code.1.1.1, code.1.1.2.map (decodeSet arena.periodFields), axes,
      decodeList (root.rollup ++ root.columns ++ axes) code.2⟩ root

theorem length_rollup_le {arena : Arena} {root : Scope} {derivation : Scope.Derivation}
    (within : derivation.Within arena root) : derivation.rollup.length ≤ placeBound arena root := by
  have included : (Scope.fieldNames derivation.rollup).Subperm
      (Scope.fieldNames (root.rollup ++ arena.ancestorFields)) :=
    List.subperm_ext_iff.mpr fun name _ => within.rollupNames name
  have short := included.length_le
  unfold Scope.fieldNames at short
  rw [List.length_map, List.length_map, List.length_append, arena.length_ancestorFields] at short
  exact short

theorem length_axes_le {arena : Arena} {root : Scope} {derivation : Scope.Derivation}
    (within : derivation.Within arena root) : derivation.axes.length ≤ arena.size :=
  Nat.le_trans ((List.subperm_of_subset (List.Nodup.of_map _ within.axesDistinct) within.axes).length_le)
    arena.length_axisFields_le

theorem exists_scopeCode {arena : Arena} {root scope : Scope} (derived : scope.DerivedFrom arena root) :
    ∃ code, decodeScope arena root code = scope := by
  obtain ⟨derivation, within, rfl⟩ := derived
  obtain ⟨axes, axesDecoded⟩ := exists_listCode arena.axisFields derivation.axes
    (length_axes_le within) arena.length_axisFields_le within.axes
  have few : (root.rollup ++ root.columns ++ derivation.axes).length ≤ columnBound arena root := by
    have := length_axes_le within
    unfold columnBound
    rw [List.length_append, List.length_append]
    omega
  obtain ⟨rollup, rollupDecoded⟩ := exists_listCode (root.rollup ++ root.columns ++ derivation.axes)
    derivation.rollup (length_rollup_le within) few within.rollup
  cases pruned : derivation.dropped with
  | none =>
    refine ⟨(((derivation.keepsFilters, none), axes), rollup), ?_⟩
    unfold decodeScope
    simp only [axesDecoded, rollupDecoded, Option.map_none, ← pruned]
  | some fields =>
    obtain ⟨marks, marksDecoded⟩ := exists_setCode arena.periodFields fields
      arena.length_periodFields_le (within.dropped fields pruned)
    refine ⟨(((derivation.keepsFilters, some marks), axes), rollup), ?_⟩
    unfold decodeScope
    simp only [axesDecoded, rollupDecoded, Option.map_some]
    have same : Criteria.withoutFields (decodeSet arena.periodFields marks) =
        Criteria.withoutFields fields := funext (Criteria.withoutFields_congr marksDecoded)
    unfold Scope.Derivation.apply
    simp only [pruned, same]

/-! ### Nodes -/

/-- The keys that scopes derived from the root can have. -/
def derivedKeys (arena : Arena) (root : Scope) : Finset ScopeKey :=
  Finset.univ.image fun code => (decodeScope arena root code).key

theorem card_derivedKeys_le (arena : Arena) (root : Scope) :
    (derivedKeys arena root).card ≤ scopeBound arena root := by
  rw [← card_scopeCode]
  exact Finset.card_image_le

theorem key_mem_derivedKeys {arena : Arena} {root scope : Scope} (derived : scope.DerivedFrom arena root) :
    scope.key ∈ derivedKeys arena root := by
  obtain ⟨code, rfl⟩ := exists_scopeCode derived
  exact Finset.mem_image_of_mem _ (Finset.mem_univ code)

theorem length_nodes_le {arena : Arena} {root : Scope} {nodes : List PlanNode} (distinct : nodes.Nodup)
    (scopes : ∀ node ∈ nodes, node.scope ∈ derivedKeys arena root)
    (measures : ∀ node ∈ nodes, node.measure ∈ arena.measures.map Measure.label) :
    nodes.length ≤ nodeBound arena root := by
  let pairs := (nodes.map fun node => (node.measure, node.scope)).toFinset
  have injective : Function.Injective fun node : PlanNode => (node.measure, node.scope) := by
    intro first second same
    obtain ⟨measures, scopes⟩ := Prod.mk.inj same
    cases first
    cases second
    simp_all
  have card_pairs : pairs.card = nodes.length := by
    rw [List.toFinset_card_of_nodup (distinct.map injective), List.length_map]
  have included : pairs ⊆ (arena.measures.map Measure.label).toFinset ×ˢ derivedKeys arena root := by
    intro pair listed
    obtain ⟨node, member, rfl⟩ := List.mem_map.mp (List.mem_toFinset.mp listed)
    exact Finset.mem_product.mpr ⟨List.mem_toFinset.mpr (measures node member), scopes node member⟩
  calc nodes.length = pairs.card := card_pairs.symm
    _ ≤ ((arena.measures.map Measure.label).toFinset ×ˢ derivedKeys arena root).card :=
      Finset.card_le_card included
    _ = (arena.measures.map Measure.label).toFinset.card * (derivedKeys arena root).card :=
      Finset.card_product _ _
    _ ≤ arena.size * scopeBound arena root :=
      Nat.mul_le_mul
        (Nat.le_trans (List.toFinset_card_le _) (Nat.le_of_eq (List.length_map _)))
        (card_derivedKeys_le arena root)

/-! ### Runs -/

/-- The invariant of a run: the nodes before `place` are expanded, and scopes derive from the root. -/
structure Running (arena : Arena) (root : Scope) (place : Nat) (discovery : Discovery) : Prop where
  expanded : discovery.Expanded arena place
  derived : ∀ {key scope}, discovery.scopes.lookup key = some scope → scope.DerivedFrom arena root

theorem Running.length_nodes_le {arena : Arena} {root : Scope} {place : Nat} {discovery : Discovery}
    (running : discovery.Running arena root place) :
    discovery.graph.nodes.length ≤ nodeBound arena root := by
  refine Discovery.length_nodes_le running.expanded.wellFormed.distinct ?_ ?_
  · intro node listed
    obtain ⟨scope, known⟩ := running.expanded.placed node listed
    rw [← running.expanded.keyed known]
    exact key_mem_derivedKeys (running.derived known)
  · intro node listed
    obtain ⟨measure, found⟩ := running.expanded.measured node listed
    rw [← Arena.label_of_find? found]
    exact List.mem_map_of_mem (List.mem_of_find?_eq_some found)

theorem Running.step {arena : Arena} {root : Scope} {place : Nat} {before after : Discovery}
    {node : PlanNode} (closed : arena.Closed) (running : before.Running arena root place)
    (next : before.graph.nodes[place]? = some node) (step : before.expand arena node = .ok after) :
    after.Running arena root (place + 1) ∧
      (∀ {key scope}, before.scopes.lookup key = some scope → after.scopes.lookup key = some scope) ∧
      before.graph.nodes ⊆ after.graph.nodes := by
  obtain ⟨dependencies, reads, expands⟩ :=
    expand_expands running.expanded.wellFormed (List.mem_of_getElem? next) step
  refine ⟨⟨running.expanded.expand closed next reads expands, ?_⟩, expands.known,
    expands.kept.subset⟩
  intro key scope new
  rcases expands.found new with old | ⟨dependency, member, -, rfl⟩
  · exact running.derived old
  · obtain ⟨scope, measure, scopeFound, measureFound, read⟩ := reads
    exact (running.derived scopeFound).dependency (List.mem_of_find?_eq_some measureFound) read member

/-- A run that does not fail expands every node: its bound is never reached. -/
theorem Running.run {arena : Arena} {root : Scope} (closed : arena.Closed) {bound place : Nat}
    {before after : Discovery} (running : before.Running arena root place)
    (enough : nodeBound arena root < place + bound) (ran : run arena bound place before = .ok after) :
    (∃ last, after.Running arena root last ∧ after.graph.nodes.length ≤ last) ∧
      (∀ {key scope}, before.scopes.lookup key = some scope → after.scopes.lookup key = some scope) ∧
      before.graph.nodes ⊆ after.graph.nodes := by
  induction bound generalizing place before with
  | zero =>
    obtain rfl := Except.ok.inj ran
    have few := running.length_nodes_le
    exact ⟨⟨place, running, by omega⟩, id, List.Subset.refl _⟩
  | succ bound ih =>
    unfold Discovery.run at ran
    cases next : before.graph.nodes[place]? with
    | none =>
      rw [next] at ran
      obtain rfl := Except.ok.inj ran
      exact ⟨⟨place, running, List.getElem?_eq_none_iff.mp next⟩, id, List.Subset.refl _⟩
    | some node =>
      rw [next] at ran
      obtain ⟨grown, step, rest⟩ := bind_eq_ok.mp ran
      obtain ⟨stepped, known, kept⟩ := running.step closed next step
      obtain ⟨finished, knownLater, keptLater⟩ := ih stepped (by omega) rest
      exact ⟨finished, fun found => knownLater (known found), List.Subset.trans kept keptLater⟩

/-- What every expansion of a run keeps holds at its end. -/
theorem Running.keeps {arena : Arena} {root : Scope} (closed : arena.Closed) (Holds : Discovery → Prop)
    (kept : ∀ {place : Nat} {before after : Discovery} {node : PlanNode} {dependencies},
      before.Running arena root place → node ∈ before.graph.nodes → before.Reads arena node dependencies →
        before.Expands after node dependencies → Holds before → Holds after)
    {bound place : Nat} {before after : Discovery} (running : before.Running arena root place)
    (ran : Discovery.run arena bound place before = .ok after) (start : Holds before) : Holds after := by
  induction bound generalizing place before with
  | zero => exact Except.ok.inj ran ▸ start
  | succ bound ih =>
    unfold Discovery.run at ran
    cases next : before.graph.nodes[place]? with
    | none =>
      rw [next] at ran
      exact Except.ok.inj ran ▸ start
    | some node =>
      rw [next] at ran
      obtain ⟨grown, step, rest⟩ := bind_eq_ok.mp ran
      have listed := List.mem_of_getElem? next
      obtain ⟨dependencies, reads, expands⟩ :=
        expand_expands running.expanded.wellFormed listed step
      exact ih (running.step closed next step).1 rest (kept running listed reads expands start)

end Discovery

end CubeQuery
