import CubeQuery.Execution.Evaluation
import CubeQuery.Proofs.Plan.Planned

/-! What the nodes of a plan read when they are evaluated in memory, and in which order they are
evaluated. -/

namespace CubeQuery.Plan

open Steps

variable {plan : Plan} {query : Query}

/-- The reference scope is the one that the comparison derives, also if it is the node's own. -/
theorem WellBuilt.referenceScope_eq (built : plan.WellBuilt query) {node : PlanNode}
    (listed : node ∈ plan.graph.nodes) {scope : Scope} {label : String} {method : ComparisonMethod}
    {base : Measure} {positions : SortedMap Field String} {period : Option Period}
    {columnSet : Option ColumnSetKey} {ancestors : Option (List Field)}
    (scopeFound : plan.discovery.scopes.lookup node.scope = some scope)
    (measureFound : plan.arena.find? node.measure =
      some (.comparison label method base positions period columnSet ancestors)) :
    ∃ reference, scope.forComparison label period columnSet ancestors = .ok reference ∧
      plan.referenceScope node = reference.key ∧
      ⟨node.scope, base.label⟩ ∈ plan.graph.dependencies node ∧
      ⟨reference.key, base.label⟩ ∈ plan.graph.dependencies node := by
  obtain ⟨dependencies, read, same⟩ := built.mem_dependencies listed scopeFound measureFound
  obtain ⟨reference, found, rest⟩ := bind_eq_ok.mp read
  obtain rfl := Except.ok.inj rest
  have own : ⟨node.scope, base.label⟩ ∈ plan.graph.dependencies node := by
    rw [same]
    refine ⟨(scope, base.label), List.mem_append_left _ (List.mem_singleton_self _), ?_⟩
    rw [Discovery.nodeOf, built.keyed scopeFound]
  have other : ⟨reference.key, base.label⟩ ∈ plan.graph.dependencies node := by
    by_cases itself : reference = scope
    · rw [itself, built.keyed scopeFound]
      exact own
    · rw [same]
      refine ⟨(reference, base.label), List.mem_append_right _ ?_, rfl⟩
      rw [if_neg itself]
      exact List.mem_singleton_self _
  refine ⟨reference, found, ?_, own, other⟩
  unfold referenceScope
  cases different : (plan.graph.dependencies node).find? fun dependency =>
      decide (dependency.scope ≠ node.scope) with
  | none =>
    have equal : reference.key = node.scope := by
      simpa using List.find?_eq_none.mp different _ other
    exact equal.symm
  | some dependency =>
    have elsewhere : dependency.scope ≠ node.scope := by simpa using List.find?_some different
    obtain ⟨target, member, rfl⟩ := (same dependency).mp (List.mem_of_find?_eq_some different)
    rcases List.mem_append.mp member with inOwn | inReference
    · obtain ⟨operand, -, rfl⟩ := List.mem_map.mp inOwn
      exact absurd (built.keyed scopeFound) elsewhere
    · split at inReference
      · exact absurd inReference List.not_mem_nil
      · obtain ⟨operand, -, rfl⟩ := List.mem_map.mp inReference
        rfl

theorem WellBuilt.vectorScope_eq (built : plan.WellBuilt query) {node : PlanNode}
    (listed : node ∈ plan.graph.nodes) {scope : Scope} {label : String}
    {fields : List (Field × String)} {axis : Field} {transformer : Option String}
    (scopeFound : plan.discovery.scopes.lookup node.scope = some scope)
    (measureFound : plan.arena.find? node.measure = some (.vector label fields axis transformer))
    (nonempty : fields ≠ []) :
    plan.vectorScope node = .ok (scope.forVector axis).key ∧
      ∀ operand ∈ Measure.components label fields,
        ⟨(scope.forVector axis).key, operand.label⟩ ∈ plan.graph.dependencies node := by
  obtain ⟨dependencies, read, same⟩ := built.mem_dependencies listed scopeFound measureFound
  obtain rfl := Except.ok.inj read
  have operands : ∀ operand ∈ Measure.components label fields,
      ⟨(scope.forVector axis).key, operand.label⟩ ∈ plan.graph.dependencies node := by
    intro operand member
    rw [same]
    exact ⟨_, List.mem_map_of_mem (List.mem_map_of_mem member), rfl⟩
  refine ⟨?_, operands⟩
  unfold vectorScope
  cases dependent : plan.graph.dependencies node with
  | nil =>
    cases fields with
    | nil => exact absurd rfl nonempty
    | cons field others =>
      have first := operands _ List.mem_cons_self
      rw [dependent] at first
      exact absurd first List.not_mem_nil
  | cons dependency others =>
    have member : dependency ∈ plan.graph.dependencies node := by
      rw [dependent]
      exact List.mem_cons_self
    obtain ⟨target, targetMember, rfl⟩ := (same dependency).mp member
    obtain ⟨operand, -, rfl⟩ := List.mem_map.mp targetMember
    rfl

theorem WellBuilt.vectorScope_nil (built : plan.WellBuilt query) {node : PlanNode}
    (listed : node ∈ plan.graph.nodes) {label : String} {axis : Field} {transformer : Option String}
    (measureFound : plan.arena.find? node.measure = some (.vector label [] axis transformer)) :
    plan.vectorScope node = .error (.incorrectPath (.noComponents node.measure)) := by
  obtain ⟨dependencies, ⟨scope, measure, -, found, read⟩, same⟩ := built.reads node listed
  obtain rfl := Option.some.inj (measureFound.symm.trans found)
  obtain rfl := Except.ok.inj read
  unfold vectorScope
  cases dependent : plan.graph.dependencies node with
  | nil => rfl
  | cons dependency others =>
    have member : dependency ∈ plan.graph.dependencies node := by
      rw [dependent]
      exact List.mem_cons_self
    obtain ⟨target, targetMember, -⟩ := (same dependency).mp member
    exact absurd targetMember List.not_mem_nil

theorem WellBuilt.binary_dependencies (built : plan.WellBuilt query) {node : PlanNode}
    (listed : node ∈ plan.graph.nodes) {label : String} {operator : BinaryOperator}
    {left right : Measure}
    (measureFound : plan.arena.find? node.measure = some (.binary label operator left right)) :
    ⟨node.scope, left.label⟩ ∈ plan.graph.dependencies node ∧
      ⟨node.scope, right.label⟩ ∈ plan.graph.dependencies node := by
  obtain ⟨dependencies, ⟨scope, measure, scopeFound, found, read⟩, same⟩ := built.reads node listed
  obtain rfl := Option.some.inj (measureFound.symm.trans found)
  obtain rfl := Except.ok.inj read
  have key_eq := built.keyed scopeFound
  constructor
  · exact (same _).mpr ⟨(scope, left.label), List.mem_cons_self, by rw [Discovery.nodeOf, key_eq]⟩
  · exact (same _).mpr ⟨(scope, right.label), List.mem_cons_of_mem _ (List.mem_singleton_self _),
      by rw [Discovery.nodeOf, key_eq]⟩

/-! ### The scopes of a plan -/

/-- The scopes of a plan: those that were found, and those that its nodes read. A read scope was
found too, under its key; it is named here so that nothing need be said about keys that collide. -/
def Involves (plan : Plan) (scope : Scope) : Prop :=
  (∃ key, plan.discovery.scopes.lookup key = some scope) ∨
    ∃ node ∈ plan.graph.nodes, ∃ dependencies, plan.discovery.Reads plan.arena node dependencies ∧
      ∃ label, (scope, label) ∈ dependencies

theorem involves_of_lookup {key : ScopeKey} {scope : Scope}
    (found : plan.discovery.scopes.lookup key = some scope) : plan.Involves scope := .inl ⟨key, found⟩

/-- A plan with one scope involves no other, if its measures read no other. -/
theorem Involves.eq_of_alone {key : ScopeKey} {scope other : Scope}
    (alone : plan.discovery.scopes = [(key, scope)])
    (reads : ∀ measure ∈ plan.arena.measures, ∀ dependencies, measure.dependencies scope = .ok dependencies →
      ∀ dependency ∈ dependencies, dependency.1 = scope) (involved : plan.Involves other) :
    other = scope := by
  have only {known : ScopeKey} {found : Scope} (at_ : plan.discovery.scopes.lookup known = some found) :
      found = scope := by
    obtain ⟨front, back, split, -⟩ := List.lookup_eq_some_iff.mp at_
    have listed : (known, found) ∈ plan.discovery.scopes := by simp [split]
    rw [alone] at listed
    exact congrArg Prod.snd (List.mem_singleton.mp listed)
  rcases involved with ⟨key, found⟩ |
    ⟨node, -, dependencies, ⟨own, measure, ownFound, known, read⟩, label, listed⟩
  · exact only found
  · rw [only ownFound] at read
    exact reads measure (List.mem_of_find?_eq_some known) dependencies read _ listed

theorem WellBuilt.involves_reference (built : plan.WellBuilt query) {node : PlanNode}
    (listed : node ∈ plan.graph.nodes) {scope reference : Scope} {label : String}
    {method : ComparisonMethod} {base : Measure} {positions : SortedMap Field String}
    {period : Option Period} {columnSet : Option ColumnSetKey} {ancestors : Option (List Field)}
    (scopeFound : plan.discovery.scopes.lookup node.scope = some scope)
    (measureFound : plan.arena.find? node.measure =
      some (.comparison label method base positions period columnSet ancestors))
    (referenceFound : scope.forComparison label period columnSet ancestors = .ok reference) :
    plan.Involves reference := by
  obtain ⟨dependencies, read, -⟩ := built.mem_dependencies listed scopeFound measureFound
  by_cases itself : reference = scope
  · exact itself ▸ involves_of_lookup scopeFound
  · refine .inr ⟨node, listed, dependencies, ⟨scope, _, scopeFound, measureFound, read⟩, base.label, ?_⟩
    obtain ⟨derived, derivedFound, dependencies_eq⟩ := bind_eq_ok.mp read
    obtain rfl := Except.ok.inj (referenceFound.symm.trans derivedFound)
    rw [← Except.ok.inj dependencies_eq, if_neg itself]
    exact List.mem_append_right _ (List.mem_singleton_self _)

theorem WellBuilt.involves_vectors (built : plan.WellBuilt query) {node : PlanNode}
    (listed : node ∈ plan.graph.nodes) {scope : Scope} {label : String}
    {fields : List (Field × String)} {axis : Field} {transformer : Option String}
    (scopeFound : plan.discovery.scopes.lookup node.scope = some scope)
    (measureFound : plan.arena.find? node.measure = some (.vector label fields axis transformer))
    (nonempty : fields ≠ []) : plan.Involves (scope.forVector axis) := by
  obtain ⟨dependencies, read, -⟩ := built.mem_dependencies listed scopeFound measureFound
  refine .inr ⟨node, listed, dependencies, ⟨scope, _, scopeFound, measureFound, read⟩,
    Measure.componentLabel label 0, ?_⟩
  rw [← Except.ok.inj read]
  cases fields with
  | nil => exact absurd rfl nonempty
  | cons field others => exact List.mem_cons_self

/-! ### The order of evaluation -/

/-- Whether a node is evaluated in memory. -/
def isInMemory (plan : Plan) (node : PlanNode) : Bool :=
  match plan.arena.find? node.measure with
  | some measure => !measure.isPrimitive
  | none => false

theorem isInMemory_eq {node : PlanNode} {measure : Measure}
    (found : plan.arena.find? node.measure = some measure) :
    plan.isInMemory node = !measure.isPrimitive := by
  unfold isInMemory
  rw [found]

theorem filterAuxM_eq {ε α : Type} {test : α → Except ε Bool} {keeps : α → Bool} {items : List α}
    (same : ∀ item ∈ items, test item = .ok (keeps item)) (kept : List α) :
    items.filterAuxM test kept = .ok ((items.filter keeps).reverse ++ kept) := by
  induction items generalizing kept with
  | nil => rfl
  | cons item rest ih =>
    have restSame : ∀ item ∈ rest, test item = .ok (keeps item) := fun item later =>
      same item (List.mem_cons_of_mem _ later)
    unfold List.filterAuxM
    rw [same item List.mem_cons_self, ok_bind, ih restSame, List.filter_cons]
    cases keeps item <;> simp

theorem filterM_eq_filter {ε α : Type} {test : α → Except ε Bool} {keeps : α → Bool} {items : List α}
    (same : ∀ item ∈ items, test item = .ok (keeps item)) :
    items.filterM test = .ok (items.filter keeps) := by
  unfold List.filterM
  rw [filterAuxM_eq same, ok_bind]
  simp

theorem flatten_filter_nonempty {α : Type} (layers : List (List α)) :
    (layers.filter fun layer => !layer.isEmpty).flatten = layers.flatten := by
  induction layers with
  | nil => rfl
  | cons layer rest ih =>
    cases layer with
    | nil => simpa using ih
    | cons item others => simp [ih]

/-- The nodes in memory are evaluated once each, behind all of them that they depend on. -/
theorem WellBuilt.inMemoryLayers_spec (built : plan.WellBuilt query) :
    ∃ layers, plan.inMemoryLayers = .ok layers ∧ layers.flatten.Nodup ∧
      (∀ node, node ∈ layers.flatten ↔ node ∈ plan.graph.nodes ∧ plan.isInMemory node = true) ∧
      ∀ before node after, layers.flatten = before ++ node :: after →
        ∀ dependency ∈ plan.graph.dependencies node, plan.isInMemory dependency = true →
          dependency ∈ before := by
  obtain ⟨everything, layered⟩ : ∃ layers, plan.graph.layers PlanNode.name = .ok layers := by
    obtain ⟨places, -, places_eq⟩ := Graph.exists_layers built.wellFormed built.acyclic
    exact ⟨_, places_eq⟩
  obtain ⟨distinct, all, ordered⟩ := Graph.layers_spec built.wellFormed layered
  have tested : ∀ layer ∈ everything, (layer.filterM fun node => do
      return !(← plan.arena.get node.measure).isPrimitive) = .ok (layer.filter plan.isInMemory) := by
    intro layer member
    refine filterM_eq_filter fun node listed => ?_
    obtain ⟨measure, found⟩ := built.find?_measure
      ((all node).mp (List.mem_flatten.mpr ⟨layer, member, listed⟩))
    unfold isInMemory
    rw [Arena.get_eq_ok.mpr found, found]
    rfl
  have mapped : (everything.mapM fun layer => layer.filterM fun node => do
      return !(← plan.arena.get node.measure).isPrimitive) =
        .ok (everything.map fun layer => layer.filter plan.isInMemory) := by
    rw [mapM_eq_ok, List.forall₂_map_right_iff, List.forall₂_same]
    exact tested
  have flat : ((everything.map fun layer => layer.filter plan.isInMemory).filter
      fun layer => !layer.isEmpty).flatten = everything.flatten.filter plan.isInMemory := by
    rw [flatten_filter_nonempty, List.filter_flatten]
  refine ⟨(everything.map fun layer => layer.filter plan.isInMemory).filter
    fun layer => !layer.isEmpty, ?_, ?_, ?_, ?_⟩
  · unfold inMemoryLayers
    rw [layered, ok_bind, mapped, ok_bind]
    rfl
  · rw [flat]
    exact distinct.filter _
  · intro node
    rw [flat, List.mem_filter, all]
  · intro before node after split dependency dependent inMemory
    rw [flat] at split
    obtain ⟨front, back, everything_eq, rfl, back_eq⟩ := List.filter_eq_append_iff.mp split
    obtain ⟨skipped, rest, rfl, none, -, -⟩ := List.filter_eq_cons_iff.mp back_eq
    have earlier := ordered (front ++ skipped) node rest (by rw [everything_eq]; simp) dependency
      dependent
    rcases List.mem_append.mp earlier with inFront | inSkipped
    · exact List.mem_filter.mpr ⟨inFront, inMemory⟩
    · exact absurd inMemory (none dependency inSkipped)

end CubeQuery.Plan
