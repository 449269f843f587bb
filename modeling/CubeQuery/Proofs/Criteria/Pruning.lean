import CubeQuery.Criteria
import Mathlib.Data.List.Forall2

/-! Criteria without the leaves on some fields. What remains is the tree with subtrees cut away, no
empty node among it, and its leaves are those of the tree that the code drops for none of the fields.
The code drops leaves on one field. A leaf that compares two fields filters on both of them, and it
remains whatever they are, so that the dropped fields are gone from what remains just for trees in
which no such leaf names one. -/

namespace CubeQuery.Criteria

/-! ### Leaves and nodes -/

mutual

/-- The leaves, from left to right. -/
def leaves : Criteria → List Criteria
  | .logical _ children => leavesOfList children
  | leaf => [leaf]

def leavesOfList : List Criteria → List Criteria
  | [] => []
  | child :: rest => child.leaves ++ leavesOfList rest

end

mutual

/-- Induction over the nodes of a tree: a node has what all of its children have. -/
@[elab_as_elim]
theorem nodeInduction {motive : Criteria → Prop}
    (onField : ∀ field condition, motive (.onField field condition))
    (onPair : ∀ left right type, motive (.onPair left right type))
    (onMeasure : ∀ measure condition, motive (.onMeasure measure condition))
    (logical : ∀ type children, (∀ child ∈ children, motive child) → motive (.logical type children)) :
    (criteria : Criteria) → motive criteria
  | .onField field condition => onField field condition
  | .onPair left right type => onPair left right type
  | .onMeasure measure condition => onMeasure measure condition
  | .logical type children =>
    logical type children (childInduction onField onPair onMeasure logical children)

theorem childInduction {motive : Criteria → Prop}
    (onField : ∀ field condition, motive (.onField field condition))
    (onPair : ∀ left right type, motive (.onPair left right type))
    (onMeasure : ∀ measure condition, motive (.onMeasure measure condition))
    (logical : ∀ type children, (∀ child ∈ children, motive child) → motive (.logical type children)) :
    (children : List Criteria) → ∀ child ∈ children, motive child
  | [] => fun _ member => absurd member List.not_mem_nil
  | first :: rest => List.forall_mem_cons.mpr
    ⟨nodeInduction onField onPair onMeasure logical first,
      childInduction onField onPair onMeasure logical rest⟩

end

theorem leavesOfList_eq_flatMap (children : List Criteria) :
    leavesOfList children = children.flatMap leaves := by
  induction children with
  | nil => rfl
  | cons child rest ih => rw [leavesOfList, ih, List.flatMap_cons]

theorem fieldsOfList_eq_flatMap (children : List Criteria) :
    fieldsOfList children = children.flatMap fields := by
  induction children with
  | nil => rfl
  | cons child rest ih => rw [fieldsOfList, ih, List.flatMap_cons]

theorem listWithoutFields_eq_filterMap (dropped : List Field) (children : List Criteria) :
    listWithoutFields dropped children = children.filterMap (withoutFields dropped) := by
  induction children with
  | nil => rfl
  | cons child rest ih =>
    rw [listWithoutFields, ih, List.filterMap_cons]
    cases withoutFields dropped child <;> rfl

theorem leaves_logical (type : ConditionType) (children : List Criteria) :
    (logical type children).leaves = children.flatMap leaves := by
  rw [leaves, leavesOfList_eq_flatMap]

/-- A tree filters on the fields that its leaves filter on. -/
theorem fields_eq_flatMap_leaves (criteria : Criteria) :
    criteria.fields = criteria.leaves.flatMap fields := by
  induction criteria using nodeInduction with
  | onField | onPair | onMeasure => simp [leaves, fields]
  | logical type children ih =>
    rw [leaves_logical, fields, fieldsOfList_eq_flatMap, List.flatMap_assoc]
    exact List.flatMap_congr ih

/-! ### Trees with subtrees cut away -/

/-- What remains of a tree from which subtrees are cut away: the nodes that are left join as they did,
in the same order. -/
inductive Within : Criteria → Criteria → Prop
  | onField (field : Field) (condition : Condition) :
    Within (.onField field condition) (.onField field condition)
  | onPair (left right : Field) (type : ConditionType) :
    Within (.onPair left right type) (.onPair left right type)
  | onMeasure (measure : Measure) (condition : Condition) :
    Within (.onMeasure measure condition) (.onMeasure measure condition)
  | logical (type : ConditionType) {kept whole : List Criteria} :
    List.SublistForall₂ Within kept whole → Within (.logical type kept) (.logical type whole)

/-- No node is empty. -/
inductive Full : Criteria → Prop
  | onField (field : Field) (condition : Condition) : Full (.onField field condition)
  | onPair (left right : Field) (type : ConditionType) : Full (.onPair left right type)
  | onMeasure (measure : Measure) (condition : Condition) : Full (.onMeasure measure condition)
  | logical (type : ConditionType) {children : List Criteria} : children ≠ [] →
    (∀ child ∈ children, Full child) → Full (.logical type children)

/-- What remains of a tree are the leaves that are to be kept, under the nodes that they were under. -/
structure Prunes (kept whole : Criteria) (keeps : Criteria → Bool) : Prop where
  within : kept.Within whole
  leaves : kept.leaves = whole.leaves.filter keeps
  full : kept.Full

theorem Full.leaves_ne_nil {criteria : Criteria} (full : criteria.Full) : criteria.leaves ≠ [] := by
  induction full with
  | onField | onPair | onMeasure => simp [leaves]
  | logical type filled _ ih =>
    obtain ⟨child, rest, rfl⟩ := List.exists_cons_of_ne_nil filled
    rw [leaves_logical, List.flatMap_cons]
    exact List.append_ne_nil_of_left_ne_nil (ih child List.mem_cons_self) _

/-! ### What the code drops -/

/-- The leaves that remain: all that are not on one of the fields. -/
def keptBy (dropped : List Field) : Criteria → Bool
  | .onField field _ => field ∉ dropped
  | _ => true

/-- The criteria filter on none of the fields. -/
def untouched (dropped : List Field) (criteria : Criteria) : Bool :=
  criteria.fields.all (· ∉ dropped)

theorem leaves_withoutFields (dropped : List Field) (whole : Criteria) :
    (whole.withoutFields dropped).elim [] leaves = whole.leaves.filter (keptBy dropped) := by
  induction whole using nodeInduction with
  | onField field condition =>
    unfold withoutFields
    by_cases gone : field ∈ dropped <;> simp [gone, leaves, keptBy]
  | onPair | onMeasure => rfl
  | logical type children ih =>
    have flat : (children.filterMap (withoutFields dropped)).flatMap leaves =
        (children.flatMap leaves).filter (keptBy dropped) := by
      rw [List.filter_flatMap, ← List.flatMap_congr ih]
      induction children with
      | nil => rfl
      | cons child rest tail =>
        have later := tail fun other member => ih other (List.mem_cons_of_mem _ member)
        rw [List.filterMap_cons, List.flatMap_cons, ← later]
        cases child.withoutFields dropped <;> rfl
    rw [leaves_logical, ← flat, withoutFields, listWithoutFields_eq_filterMap]
    cases children.filterMap (withoutFields dropped) with
    | nil => rfl
    | cons kept rest => exact leaves_logical type (kept :: rest)

theorem sublistForall_filterMap {R : Criteria → Criteria → Prop} {prune : Criteria → Option Criteria} :
    (children : List Criteria) → (∀ child ∈ children, ∀ kept, prune child = some kept → R kept child) →
      List.SublistForall₂ R (children.filterMap prune) children
  | [], _ => .nil
  | child :: rest, each => by
    have later := sublistForall_filterMap rest fun other member => each other (List.mem_cons_of_mem _ member)
    cases pruned : prune child with
    | none =>
      rw [List.filterMap_cons_none pruned]
      exact .cons_right later
    | some kept =>
      rw [List.filterMap_cons_some pruned]
      exact .cons (each child List.mem_cons_self kept pruned) later

theorem withoutFields_logical_eq_some {dropped : List Field} {type : ConditionType}
    {children : List Criteria} {kept : Criteria} :
    (logical type children).withoutFields dropped = some kept ↔
      children.filterMap (withoutFields dropped) ≠ [] ∧
        kept = logical type (children.filterMap (withoutFields dropped)) := by
  rw [withoutFields, listWithoutFields_eq_filterMap]
  cases children.filterMap (withoutFields dropped) with
  | nil => simp
  | cons first rest => simp [eq_comm]

theorem within_and_full_withoutFields {dropped : List Field} (whole : Criteria) :
    ∀ kept, whole.withoutFields dropped = some kept → kept.Within whole ∧ kept.Full := by
  induction whole using nodeInduction with
  | onField field condition =>
    intro kept remains
    unfold withoutFields at remains
    split at remains
    · cases remains
    · cases remains
      exact ⟨.onField field condition, .onField field condition⟩
  | onPair left right type =>
    rintro kept ⟨⟩
    exact ⟨.onPair left right type, .onPair left right type⟩
  | onMeasure measure condition =>
    rintro kept ⟨⟩
    exact ⟨.onMeasure measure condition, .onMeasure measure condition⟩
  | logical type children ih =>
    intro kept remains
    obtain ⟨filled, rfl⟩ := withoutFields_logical_eq_some.mp remains
    constructor
    · exact .logical type (sublistForall_filterMap children fun child member pruned childRemains =>
        (ih child member pruned childRemains).1)
    · apply Full.logical type filled
      intro pruned member
      obtain ⟨child, listed, childRemains⟩ := List.mem_filterMap.mp member
      exact (ih child listed pruned childRemains).2

theorem prunes_withoutFields {dropped : List Field} {whole kept : Criteria}
    (remains : whole.withoutFields dropped = some kept) : kept.Prunes whole (keptBy dropped) where
  within := (within_and_full_withoutFields whole kept remains).1
  leaves := by
    rw [← leaves_withoutFields, remains]
    rfl
  full := (within_and_full_withoutFields whole kept remains).2

theorem withoutFields_eq_none_iff {dropped : List Field} {whole : Criteria} :
    whole.withoutFields dropped = none ↔ whole.leaves.filter (keptBy dropped) = [] := by
  rw [← leaves_withoutFields]
  cases remains : whole.withoutFields dropped with
  | none => simp
  | some kept => simpa using (prunes_withoutFields remains).full.leaves_ne_nil

/-! ### Only one tree remains -/

theorem flatMap_leaves_sublist {kept whole : List Criteria}
    (each : ∀ child ∈ whole, ∀ pruned : Criteria, pruned.Within child →
      pruned.leaves.Sublist child.leaves)
    (cut : List.SublistForall₂ Within kept whole) :
    (kept.flatMap leaves).Sublist (whole.flatMap leaves) := by
  induction cut with
  | nil => exact List.nil_sublist _
  | cons here _ later =>
    rw [List.flatMap_cons, List.flatMap_cons]
    exact (each _ List.mem_cons_self _ here).append
      (later fun child member => each child (List.mem_cons_of_mem _ member))
  | cons_right _ later =>
    rw [List.flatMap_cons]
    exact (later fun child member => each child (List.mem_cons_of_mem _ member)).trans
      (List.sublist_append_right _ _)

theorem Within.leaves_sublist {kept whole : Criteria} (within : kept.Within whole) :
    kept.leaves.Sublist whole.leaves := by
  induction whole using nodeInduction generalizing kept with
  | onField | onPair | onMeasure =>
    cases within
    exact List.Sublist.refl _
  | logical type children ih =>
    cases within with
    | logical _ cut =>
      rw [leaves_logical, leaves_logical]
      exact flatMap_leaves_sublist (fun child member _ => ih child member) cut

/-- Parts of two lists that make up the kept elements of both are the kept elements of each. -/
theorem eq_filter_of_append {keeps : Criteria → Bool} {first second left right : List Criteria}
    (firstPart : first.Sublist left) (secondPart : second.Sublist right)
    (same : first ++ second = (left ++ right).filter keeps) :
    first = left.filter keeps ∧ second = right.filter keeps := by
  have kept : ∀ leaf ∈ first ++ second, keeps leaf = true := by
    rw [same]
    exact fun leaf => List.of_mem_filter
  have firstKept : first.Sublist (left.filter keeps) := by
    have within := firstPart.filter keeps
    rwa [List.filter_eq_self.mpr fun leaf member => kept leaf (List.mem_append_left _ member)] at within
  have secondKept : second.Sublist (right.filter keeps) := by
    have within := secondPart.filter keeps
    rwa [List.filter_eq_self.mpr fun leaf member => kept leaf (List.mem_append_right _ member)] at within
  have lengths := congrArg List.length same
  rw [List.filter_append, List.length_append, List.length_append] at lengths
  have firstShorter := firstKept.length_le
  have secondShorter := secondKept.length_le
  exact ⟨firstKept.eq_of_length (by omega), secondKept.eq_of_length (by omega)⟩

/-- The children that remain are known by their leaves. By induction on what is cut away: the leaves of
a child that remains are those of the child that are kept, and a child that is gone had none. -/
theorem filterMap_withoutFields_of_leaves {dropped : List Field} {kept whole : List Criteria}
    (each : ∀ child ∈ whole, ∀ pruned, pruned.Prunes child (keptBy dropped) →
      child.withoutFields dropped = some pruned)
    (cut : List.SublistForall₂ Within kept whole)
    (leaves_eq : kept.flatMap leaves = (whole.flatMap leaves).filter (keptBy dropped))
    (full : ∀ child ∈ kept, child.Full) : whole.filterMap (withoutFields dropped) = kept := by
  induction cut with
  | nil =>
    rw [List.filterMap_eq_nil_iff]
    intro child member
    rw [withoutFields_eq_none_iff, List.filter_eq_nil_iff]
    intro leaf listed
    exact List.filter_eq_nil_iff.mp leaves_eq.symm leaf (List.mem_flatMap.mpr ⟨child, member, listed⟩)
  | cons here cutLater later =>
    rw [List.flatMap_cons, List.flatMap_cons] at leaves_eq
    have restLeaves := flatMap_leaves_sublist (fun _ _ _ => Within.leaves_sublist) cutLater
    obtain ⟨ofChild, ofRest⟩ := eq_filter_of_append here.leaves_sublist restLeaves leaves_eq
    rw [List.filterMap_cons_some
      (each _ List.mem_cons_self _ ⟨here, ofChild, full _ List.mem_cons_self⟩)]
    rw [later (fun child member => each child (List.mem_cons_of_mem _ member)) ofRest
      fun child member => full child (List.mem_cons_of_mem _ member)]
  | cons_right cutLater later =>
    rw [List.flatMap_cons] at leaves_eq
    have restLeaves := flatMap_leaves_sublist (fun _ _ _ => Within.leaves_sublist) cutLater
    obtain ⟨ofChild, ofRest⟩ := eq_filter_of_append (List.nil_sublist _) restLeaves leaves_eq
    rw [List.filterMap_cons_none (withoutFields_eq_none_iff.mpr ofChild.symm)]
    exact later (fun child member => each child (List.mem_cons_of_mem _ member)) ofRest full

theorem Prunes.withoutFields_eq {dropped : List Field} {whole kept : Criteria}
    (prunes : kept.Prunes whole (keptBy dropped)) : whole.withoutFields dropped = some kept := by
  induction whole using nodeInduction generalizing kept with
  | onField field condition =>
    obtain ⟨⟨⟩, leaves_eq, -⟩ := prunes
    have outside : keptBy dropped (.onField field condition) = true :=
      List.filter_eq_self.mp leaves_eq.symm _ (List.mem_singleton_self _)
    unfold withoutFields
    rw [if_neg (of_decide_eq_true outside)]
  | onPair | onMeasure =>
    obtain ⟨⟨⟩, -, -⟩ := prunes
    rfl
  | logical type children ih =>
    obtain ⟨within, leaves_eq, full⟩ := prunes
    cases within with
    | logical _ cut =>
      cases full with
      | logical _ filled childrenFull =>
        rw [leaves_logical, leaves_logical] at leaves_eq
        have remain := filterMap_withoutFields_of_leaves (fun child member _ => ih child member) cut
          leaves_eq childrenFull
        apply withoutFields_logical_eq_some.mpr
        rw [remain]
        exact ⟨filled, rfl⟩

/-! ### Dropped fields -/

/-- What remains is the tree without all that filters on the fields. -/
structure PrunedExactly (dropped : List Field) (whole : Criteria) : Prop where
  remains : ∀ kept, whole.withoutFields dropped = some kept → kept.Prunes whole (untouched dropped)
  vanishes : whole.withoutFields dropped = none ↔ ∀ leaf ∈ whole.leaves, untouched dropped leaf = false
  gone : ∀ kept, whole.withoutFields dropped = some kept → ∀ field ∈ dropped, field ∉ kept.fields

theorem logical_notMem_leaves {whole : Criteria} {type : ConditionType} {children : List Criteria} :
    logical type children ∉ whole.leaves := by
  induction whole using nodeInduction with
  | onField | onPair | onMeasure => simp [leaves]
  | logical _ _ ih =>
    intro member
    rw [leaves_logical] at member
    obtain ⟨child, listed, member⟩ := List.mem_flatMap.mp member
    exact ih child listed member

/-- What the code drops and what a leaf filters on differ on leaves that compare two fields alone. -/
theorem keptBy_eq_untouched {dropped : List Field} {whole leaf : Criteria}
    (pairs : ∀ left right type, .onPair left right type ∈ whole.leaves →
      left ∉ dropped ∧ right ∉ dropped)
    (member : leaf ∈ whole.leaves) : keptBy dropped leaf = untouched dropped leaf := by
  cases leaf with
  | onField field condition => simp [keptBy, untouched, fields]
  | onPair left right type => simp [keptBy, untouched, fields, pairs left right type member]
  | onMeasure measure condition => rfl
  | logical type children => exact absurd member logical_notMem_leaves

theorem vanishes_iff {dropped : List Field} {whole : Criteria} :
    whole.withoutFields dropped = none ↔ ∀ leaf ∈ whole.leaves, keptBy dropped leaf = false := by
  rw [withoutFields_eq_none_iff, List.filter_eq_nil_iff]
  simp only [Bool.not_eq_true]

theorem PrunedExactly.of_pairs {dropped : List Field} {whole : Criteria}
    (pairs : ∀ left right type, .onPair left right type ∈ whole.leaves →
      left ∉ dropped ∧ right ∉ dropped) : whole.PrunedExactly dropped := by
  have same : ∀ leaf ∈ whole.leaves, keptBy dropped leaf = untouched dropped leaf :=
    fun leaf member => keptBy_eq_untouched pairs member
  have prunes : ∀ kept, whole.withoutFields dropped = some kept →
      kept.Prunes whole (untouched dropped) := by
    intro kept remains
    obtain ⟨within, leaves_eq, full⟩ := prunes_withoutFields remains
    exact ⟨within, leaves_eq.trans (List.filter_congr same), full⟩
  constructor
  · exact prunes
  · rw [vanishes_iff]
    apply forall₂_congr
    intro leaf member
    rw [same leaf member]
  · intro kept remains field listed used
    rw [fields_eq_flatMap_leaves, (prunes kept remains).leaves] at used
    obtain ⟨leaf, member, used⟩ := List.mem_flatMap.mp used
    have clean : untouched dropped leaf = true := List.of_mem_filter member
    exact of_decide_eq_true (List.all_eq_true.mp clean field used) listed

/-- A leaf that compares two fields remains, and with it the fields that it filters on. -/
theorem PrunedExactly.pairs {dropped : List Field} {whole : Criteria}
    (exact : whole.PrunedExactly dropped) {left right : Field} {type : ConditionType}
    (member : .onPair left right type ∈ whole.leaves) : left ∉ dropped ∧ right ∉ dropped := by
  cases remains : whole.withoutFields dropped with
  | none => cases vanishes_iff.mp remains _ member
  | some kept =>
    have stays : .onPair left right type ∈ kept.leaves := by
      rw [(prunes_withoutFields remains).leaves]
      exact List.mem_filter.mpr ⟨member, rfl⟩
    have used : ∀ field ∈ [left, right], field ∈ kept.fields := by
      intro field listed
      rw [fields_eq_flatMap_leaves]
      exact List.mem_flatMap.mpr ⟨_, stays, listed⟩
    constructor
    · intro listed
      exact exact.gone kept remains left listed (used left List.mem_cons_self)
    · intro listed
      exact exact.gone kept remains right listed (used right (by simp))

/-- What remains of criteria without some fields: the one tree that keeps, under the nodes that they
were under, the leaves that are not on one of the fields, and nothing if there is no such leaf. It is
the tree without all that filters on the fields just if no leaf compares one of them with another. -/
theorem withoutFields_exact (dropped : List Field) (whole : Criteria) :
    (∀ kept, whole.withoutFields dropped = some kept ↔ kept.Prunes whole (keptBy dropped)) ∧
      (whole.withoutFields dropped = none ↔ ∀ leaf ∈ whole.leaves, keptBy dropped leaf = false) ∧
      (whole.PrunedExactly dropped ↔ ∀ left right type, .onPair left right type ∈ whole.leaves →
        left ∉ dropped ∧ right ∉ dropped) := by
  refine ⟨fun kept => ⟨prunes_withoutFields, Prunes.withoutFields_eq⟩, vanishes_iff, ?_⟩
  constructor
  · intro exact left right type member
    exact exact.pairs member
  · intro pairs
    exact .of_pairs pairs

/-- A year that is compared with a quarter is dropped with neither of them. -/
example :
    let criteria : Criteria := .logical .and
      [.onPair (.ofName "year") (.ofName "quarter") .eq,
       .logical .or [.onField (.ofName "year") (.single .eq (.int 2023))]]
    (criteria.withoutFields [.ofName "year"]).map leaves =
      some [.onPair (.ofName "year") (.ofName "quarter") .eq] := by
  rfl

end CubeQuery.Criteria
