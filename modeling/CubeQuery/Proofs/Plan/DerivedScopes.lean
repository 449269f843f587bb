import CubeQuery.Plan.Discovery
import CubeQuery.Proofs.Steps
import Mathlib.Data.List.Count
import Mathlib.Data.List.Nodup
import Mathlib.Data.List.Perm.Subperm

/-! The scopes that a query leads to. Each of them is the scope of the query with a set of period
fields dropped from its criteria, with axes behind its columns, and with another rollup; a rollup
holds no more columns of one name than the query and the ancestors of its measures name. -/

namespace CubeQuery

open Steps

/-! ### Criteria -/

namespace Criteria

mutual

theorem withoutFields_append (first second : List Field) :
    (criteria : Criteria) → (criteria.withoutFields first).bind (withoutFields second) =
      criteria.withoutFields (first ++ second)
  | .onField field condition => by
    unfold withoutFields
    by_cases inFirst : field ∈ first
    · simp [inFirst]
    · simp [inFirst, withoutFields]
  | .onPair left right type => rfl
  | .onMeasure measure condition => rfl
  | .logical type children => by
    unfold withoutFields
    rw [← listWithoutFields_append first second children]
    cases listWithoutFields first children with
    | nil => rfl
    | cons kept rest => rfl

theorem listWithoutFields_append (first second : List Field) :
    (children : List Criteria) → listWithoutFields second (listWithoutFields first children) =
      listWithoutFields (first ++ second) children
  | [] => rfl
  | child :: rest => by
    have ofChild := withoutFields_append first second child
    have ofRest := listWithoutFields_append first second rest
    cases kept : withoutFields first child with
    | none =>
      rw [kept] at ofChild
      simp only [listWithoutFields, kept, ← ofChild, Option.bind_none, ofRest]
    | some remaining =>
      rw [kept] at ofChild
      simp only [listWithoutFields, kept, ← ofChild, Option.bind_some, ofRest]

end

mutual

/-- Only the set of the dropped fields counts. -/
theorem withoutFields_congr {first second : List Field} (same : ∀ field, field ∈ first ↔ field ∈ second) :
    (criteria : Criteria) → criteria.withoutFields first = criteria.withoutFields second
  | .onField field condition => by simp [withoutFields, same]
  | .onPair left right type => rfl
  | .onMeasure measure condition => rfl
  | .logical type children => by
    unfold withoutFields
    rw [listWithoutFields_congr same children]

theorem listWithoutFields_congr {first second : List Field}
    (same : ∀ field, field ∈ first ↔ field ∈ second) :
    (children : List Criteria) → listWithoutFields first children = listWithoutFields second children
  | [] => rfl
  | child :: rest => by
    unfold listWithoutFields
    rw [withoutFields_congr same child, listWithoutFields_congr same rest]

end

end Criteria

/-! ### What measures name -/

namespace Measure

def ancestorFields : Measure → List Field
  | .comparison _ _ _ _ _ _ (some ancestors) => ancestors
  | _ => []

def periodFields : Measure → List Field
  | .comparison _ _ _ _ (some period) _ _ => period.fields
  | _ => []

def axisFields : Measure → List Field
  | .vector _ _ axis _ => [axis]
  | _ => []

theorem length_periodFields_le (measure : Measure) : measure.periodFields.length ≤ 2 := by
  unfold periodFields
  split
  · next period _ _ => cases period <;> simp [Period.fields, Period.partField?]
  · simp

theorem length_axisFields_le (measure : Measure) : measure.axisFields.length ≤ 1 := by
  unfold axisFields
  split <;> simp

end Measure

namespace Arena

def ancestorFields (arena : Arena) : List Field := arena.measures.flatMap Measure.ancestorFields

def periodFields (arena : Arena) : List Field := arena.measures.flatMap Measure.periodFields

def axisFields (arena : Arena) : List Field := arena.measures.flatMap Measure.axisFields

theorem length_flatMap_le {α β : Type} (items : List α) (part : α → List β) (bound : Nat)
    (each : ∀ item, (part item).length ≤ bound) :
    (items.flatMap part).length ≤ bound * items.length := by
  induction items with
  | nil => simp
  | cons item rest ih =>
    have here := each item
    rw [List.flatMap_cons, List.length_append, List.length_cons, Nat.mul_succ]
    omega

theorem length_periodFields_le (arena : Arena) : arena.periodFields.length ≤ 2 * arena.size :=
  length_flatMap_le _ _ 2 Measure.length_periodFields_le

theorem length_axisFields_le (arena : Arena) : arena.axisFields.length ≤ arena.size := by
  have := length_flatMap_le arena.measures Measure.axisFields 1 Measure.length_axisFields_le
  rwa [Nat.one_mul] at this

theorem length_ancestorFields (arena : Arena) :
    arena.ancestorFields.length = Discovery.totalAncestors arena := by
  unfold ancestorFields Discovery.totalAncestors
  induction arena.measures with
  | nil => rfl
  | cons measure rest ih =>
    rw [List.flatMap_cons, List.length_append, List.foldr_cons, ih]
    congr 1
    cases measure with
    | comparison _ _ _ _ _ _ ancestors => cases ancestors <;> rfl
    | _ => rfl

end Arena

/-! ### The shape of a derived scope -/

namespace Scope

def fieldNames (fields : List Field) : List String := fields.map Field.name

/-- What tells a derived scope from its root: the fields dropped from the criteria, if any were
looked for, the axes behind the columns, and the rollup. -/
structure Derivation where
  keepsFilters : Bool
  dropped : Option (List Field)
  axes : List Field
  rollup : List Field

def Derivation.apply (derivation : Derivation) (root : Scope) : Scope :=
  { root with
    columns := root.columns ++ derivation.axes
    rollup := derivation.rollup
    whereCriteria :=
      match derivation.dropped with
      | none => root.whereCriteria
      | some fields => root.whereCriteria.bind (Criteria.withoutFields fields)
    havingCriteria := if derivation.keepsFilters then root.havingCriteria else none
    limit := if derivation.keepsFilters then root.limit else none }

/-- Everything in a derivation comes from the root or from a measure of the query. -/
structure Derivation.Within (derivation : Derivation) (arena : Arena) (root : Scope) : Prop where
  dropped : ∀ fields, derivation.dropped = some fields → fields ⊆ arena.periodFields
  axes : derivation.axes ⊆ arena.axisFields
  axesDistinct : (fieldNames derivation.axes).Nodup
  rollup : derivation.rollup ⊆ root.rollup ++ root.columns ++ derivation.axes
  rollupNames : ∀ name, (fieldNames derivation.rollup).count name ≤
    (fieldNames (root.rollup ++ arena.ancestorFields)).count name

/-- A scope that is the root or derived from it. -/
def DerivedFrom (scope : Scope) (arena : Arena) (root : Scope) : Prop :=
  ∃ derivation : Derivation, derivation.Within arena root ∧ scope = derivation.apply root

theorem derivedFrom_root (arena : Arena) (root : Scope) : root.DerivedFrom arena root := by
  refine ⟨⟨true, none, [], root.rollup⟩, ⟨by simp, by simp, by simp [fieldNames], by simp, ?_⟩, ?_⟩
  · intro name
    simp [fieldNames]
  · simp [Derivation.apply]

theorem Derivation.prefetch_apply (derivation : Derivation) (root : Scope) :
    (derivation.apply root).prefetch = { derivation with keepsFilters := false }.apply root := by
  simp [Derivation.apply, prefetch]

theorem DerivedFrom.prefetch {arena : Arena} {root scope : Scope} (derived : scope.DerivedFrom arena root) :
    scope.prefetch.DerivedFrom arena root := by
  obtain ⟨derivation, within, rfl⟩ := derived
  exact ⟨{ derivation with keepsFilters := false },
    ⟨within.dropped, within.axes, within.axesDistinct, within.rollup, within.rollupNames⟩,
    derivation.prefetch_apply root⟩

theorem DerivedFrom.forPeriod {arena : Arena} {root scope : Scope}
    (derived : scope.DerivedFrom arena root) {period : Period}
    (named : period.fields ⊆ arena.periodFields) :
    (scope.forPeriod period).DerivedFrom arena root := by
  obtain ⟨derivation, within, rfl⟩ := derived
  refine ⟨{ derivation with
      keepsFilters := false
      dropped := some ((derivation.dropped.getD []) ++ period.fields) },
    ⟨?_, within.axes, within.axesDistinct, within.rollup, within.rollupNames⟩, ?_⟩
  · intro fields fields_eq
    obtain rfl := Option.some.inj fields_eq
    refine List.append_subset.mpr ⟨?_, named⟩
    cases earlier : derivation.dropped with
    | none => simp
    | some fields => exact within.dropped fields earlier
  · have pruned : (derivation.apply root).whereCriteria.bind (Criteria.withoutFields period.fields) =
        root.whereCriteria.bind
          (Criteria.withoutFields ((derivation.dropped.getD []) ++ period.fields)) := by
      unfold Derivation.apply
      cases derivation.dropped with
      | none => rfl
      | some fields =>
        simp only [Option.getD_some]
        rw [Option.bind_assoc]
        congr 1
        funext criteria
        exact criteria.withoutFields_append fields period.fields
    unfold Scope.forPeriod
    rw [derivation.prefetch_apply]
    unfold Derivation.apply at pruned ⊢
    simp only [Bool.false_eq_true, if_false] at pruned ⊢
    rw [← pruned]

theorem DerivedFrom.forVector {arena : Arena} {root scope : Scope}
    (derived : scope.DerivedFrom arena root) {axis : Field} (named : axis ∈ arena.axisFields) :
    (scope.forVector axis).DerivedFrom arena root := by
  unfold Scope.forVector
  split
  · exact derived.prefetch
  · next absent =>
    obtain ⟨derivation, within, rfl⟩ := derived
    refine ⟨{ derivation with keepsFilters := false, axes := derivation.axes ++ [axis] },
      ⟨within.dropped, ?_, ?_, ?_, within.rollupNames⟩, ?_⟩
    · exact List.append_subset.mpr ⟨within.axes, List.cons_subset.mpr ⟨named, List.nil_subset _⟩⟩
    · have new : axis.name ∉ fieldNames derivation.axes := by
        intro listed
        obtain ⟨field, member, same⟩ := List.mem_map.mp listed
        refine absent (List.any_eq_true.mpr ⟨field, ?_, decide_eq_true same⟩)
        exact List.mem_append_right _ member
      unfold fieldNames at new ⊢
      rw [List.map_append, List.map_singleton, ← List.concat_eq_append]
      exact List.Nodup.concat new within.axesDistinct
    · rw [← List.append_assoc]
      exact List.Subset.trans within.rollup (List.subset_append_left _ _)
    · rw [derivation.prefetch_apply]
      simp [Derivation.apply]

theorem fieldNames_found_sublist (columns ancestors : List Field) :
    (fieldNames (ancestors.filterMap fun ancestor =>
      columns.find? fun column => column.name = ancestor.name)).Sublist (fieldNames ancestors) := by
  induction ancestors with
  | nil => exact .slnil
  | cons ancestor rest ih =>
    rw [List.filterMap_cons]
    cases found : columns.find? fun column => column.name = ancestor.name with
    | none => exact .cons _ ih
    | some column =>
      have same : column.name = ancestor.name := by simpa using List.find?_some found
      unfold fieldNames
      rw [List.map_cons, List.map_cons, same]
      exact .cons_cons _ ih

/-- Of one name, a parent rollup holds what it held before or what the ancestors hold. -/
theorem count_parentRollup_le (scope : Scope) (ancestors : List Field) (name : String) :
    (fieldNames (scope.parentRollup ancestors)).count name ≤
      max ((fieldNames scope.rollup).count name) ((fieldNames ancestors).count name) := by
  have found := (fieldNames_found_sublist scope.columns ancestors.reverse).count_le name
  have reversed : (fieldNames ancestors.reverse).count name = (fieldNames ancestors).count name := by
    unfold fieldNames
    rw [List.map_reverse]
    exact List.count_reverse
  unfold parentRollup
  unfold fieldNames at found reversed ⊢
  rw [List.map_append, List.count_append]
  by_cases listed : name ∈ ancestors.map Field.name
  · have gone : ((scope.rollup.filter fun field =>
        !(ancestors.map Field.name).contains field.name).map Field.name).count name = 0 := by
      rw [List.count_eq_zero]
      intro left
      obtain ⟨field, member, rfl⟩ := List.mem_map.mp left
      have outside := (List.mem_filter.mp member).2
      simp [listed] at outside
    omega
  · have none : (ancestors.map Field.name).count name = 0 := List.count_eq_zero.mpr listed
    have fewer : ((scope.rollup.filter fun field =>
        !(ancestors.map Field.name).contains field.name).map Field.name).count name ≤
          (scope.rollup.map Field.name).count name :=
      (List.filter_sublist.map _).count_le name
    omega

theorem parentRollup_subset (scope : Scope) (ancestors : List Field) :
    scope.parentRollup ancestors ⊆ scope.rollup ++ scope.columns := by
  unfold parentRollup
  refine List.append_subset.mpr ⟨?_, ?_⟩
  · exact fun field kept => List.mem_append_left _ (List.mem_of_mem_filter kept)
  · intro field found
    obtain ⟨ancestor, -, column⟩ := List.mem_filterMap.mp found
    exact List.mem_append_right _ (List.mem_of_find?_eq_some column)

theorem DerivedFrom.forParents {arena : Arena} {root scope : Scope}
    (derived : scope.DerivedFrom arena root) {ancestors : List Field}
    (named : ancestors.Sublist arena.ancestorFields) :
    (scope.forParents ancestors).DerivedFrom arena root := by
  obtain ⟨derivation, within, rfl⟩ := derived
  refine ⟨{ derivation with
      keepsFilters := false
      rollup := (derivation.apply root).parentRollup ancestors },
    ⟨within.dropped, within.axes, within.axesDistinct, ?_, ?_⟩, ?_⟩
  · refine List.Subset.trans (parentRollup_subset _ _)
      (List.append_subset.mpr ⟨within.rollup, ?_⟩)
    intro column listed
    rw [List.append_assoc]
    exact List.mem_append_right _ listed
  · intro name
    have step := count_parentRollup_le (derivation.apply root) ancestors name
    have before : (fieldNames (derivation.apply root).rollup).count name ≤
        (fieldNames (root.rollup ++ arena.ancestorFields)).count name := within.rollupNames name
    have added := (named.map Field.name).count_le name
    change (fieldNames ((derivation.apply root).parentRollup ancestors)).count name ≤ _
    unfold fieldNames at step before ⊢
    rw [List.map_append, List.count_append] at before ⊢
    omega
  · unfold Scope.forParents
    rw [derivation.prefetch_apply]
    rfl

theorem forComparison_cases {scope reference : Scope} {label : String} {period : Option Period}
    {columnSet : Option ColumnSetKey} {ancestors : Option (List Field)}
    (found : scope.forComparison label period columnSet ancestors = .ok reference) :
    (∃ calendar, period = some calendar ∧ (∀ field ∈ calendar.fields, scope.hasColumn field = true) ∧
        reference = scope.forPeriod calendar) ∨
      (∃ fields, period = none ∧ ancestors = some fields ∧ reference = scope.forParents fields) ∨
      (period = none ∧ ancestors = none ∧ columnSet = some .bucket ∧
        scope.bucketSet.isSome = true ∧ reference = scope) := by
  unfold forComparison at found
  cases period with
  | some calendar =>
    cases missing : calendar.fields.find? fun field => !scope.hasColumn field with
    | some field => simp [missing] at found
    | none =>
      simp only [missing, Except.ok.injEq] at found
      refine .inl ⟨calendar, rfl, fun field listed => ?_, found.symm⟩
      simpa using List.find?_eq_none.mp missing field listed
  | none =>
    cases ancestors with
    | some fields =>
      simp only at found
      split at found
      · exact .inr (.inl ⟨fields, rfl, rfl, (Except.ok.inj found).symm⟩)
      · cases found
    | none =>
      cases columnSet with
      | none => cases found
      | some set =>
        cases set
        simp only at found
        split at found
        · next present => exact .inr (.inr ⟨rfl, rfl, rfl, present, (Except.ok.inj found).symm⟩)
        · cases found

theorem groupingNames_of_forComparison {scope reference : Scope} {label : String}
    {period : Option Period} {columnSet : Option ColumnSetKey} {ancestors : Option (List Field)}
    (found : scope.forComparison label period columnSet ancestors = .ok reference) :
    reference.groupingNames = scope.groupingNames := by
  rcases forComparison_cases found with ⟨-, -, -, rfl⟩ | ⟨-, -, -, rfl⟩ | ⟨-, -, -, -, rfl⟩ <;> rfl

theorem groupingNames_forVector (scope : Scope) (axis : Field) :
    scope.groupingNames ⊆ (scope.forVector axis).groupingNames ∧
      axis.name ∈ (scope.forVector axis).groupingNames := by
  unfold forVector
  split
  · next present =>
    obtain ⟨column, listed, same⟩ := List.any_eq_true.mp present
    refine ⟨List.Subset.refl _, ?_⟩
    rw [← of_decide_eq_true same]
    exact List.mem_append_right _ (List.mem_map_of_mem listed)
  · unfold groupingNames
    simp only [List.map_append, ← List.append_assoc]
    exact ⟨List.subset_append_left _ _, List.mem_append_right _ (List.mem_singleton_self _)⟩

/-- Every scope that a measure of the query reads is derived from the root if its own is. -/
theorem DerivedFrom.dependency {arena : Arena} {root scope : Scope}
    (derived : scope.DerivedFrom arena root) {measure : Measure} (listed : measure ∈ arena.measures)
    {dependencies : List (Scope × String)} (read : measure.dependencies scope = .ok dependencies)
    {dependency : Scope × String} (member : dependency ∈ dependencies) :
    dependency.1.DerivedFrom arena root := by
  cases measure with
  | binary label operator left right =>
    obtain rfl := Except.ok.inj read
    obtain ⟨operand, -, rfl⟩ := List.mem_map.mp member
    exact derived
  | comparison label method base positions period columnSet ancestors =>
    obtain ⟨reference, found, rest⟩ := bind_eq_ok.mp read
    obtain rfl := Except.ok.inj rest
    have referenceDerived : reference.DerivedFrom arena root := by
      rcases forComparison_cases found with ⟨calendar, rfl, -, rfl⟩ | ⟨fields, -, rfl, rfl⟩ | ⟨-, -, -, -, rfl⟩
      · exact derived.forPeriod fun field named => List.mem_flatMap.mpr ⟨_, listed, named⟩
      · refine derived.forParents ?_
        exact List.sublist_flatten_of_mem (List.mem_map_of_mem listed)
      · exact derived
    rcases List.mem_append.mp member with own | other
    · obtain ⟨operand, -, rfl⟩ := List.mem_map.mp own
      exact derived
    · split at other
      · exact absurd other List.not_mem_nil
      · obtain ⟨operand, -, rfl⟩ := List.mem_map.mp other
        exact referenceDerived
  | vector label fields axis transformer =>
    obtain rfl := Except.ok.inj read
    obtain ⟨operand, -, rfl⟩ := List.mem_map.mp member
    exact derived.forVector (List.mem_flatMap.mpr ⟨_, listed, List.mem_singleton_self axis⟩)
  | _ =>
    obtain rfl := Except.ok.inj read
    exact absurd member List.not_mem_nil

end Scope

end CubeQuery
