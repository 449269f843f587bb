import CubeQuery.Plan.Reference
import CubeQuery.Proofs.GroupingSets
import CubeQuery.Proofs.Memory.Rows
import CubeQuery.Proofs.Plan.Lowering

/-! Grouping sets of parents. The rows to compare with are rolled up along the ancestors, behind the columns
that the scope itself rolls up, and a rollup has only its beginnings as sets. A set of the scope without its
finest ancestor is one of them if what it leaves out then is an end of the rollup: the finest ancestors alone,
or all of them with any columns that the scope drops. -/

namespace CubeQuery

open Steps

namespace Statement

/-- The selected columns that ancestors name, the finest first. -/
def levels (statement : Statement) (ancestors : List Field) : List TypedField :=
  ancestors.filterMap fun ancestor => statement.select.find? fun field => field.name = ancestor.name

/-- The statement for the same rows, rolled up along levels as well, without filters after grouping. -/
def rolledAlong (statement : Statement) (levels : List TypedField) (measures : List TypedMeasure) :
    Statement :=
  { statement.unrestricted with
    rollup := (statement.rollup.filter fun field => !levels.contains field) ++ levels.reverse, measures }

/-- A set without one of its columns. -/
def dropColumn (level : TypedField) (set : List TypedField) : List TypedField :=
  set.filter fun field => field ≠ level

/-- Whether the columns that a set lacks are, with one of its levels, the finest levels, or whether the set
has no other level. -/
def ParentRolled (statement : Statement) (levels set : List TypedField) (level : TypedField) : Prop :=
  (∃ count ∈ List.range (levels.length + 1), ∀ field ∈ statement.select,
      field ∉ set ∨ field = level ↔ field ∈ levels.take count ∧ field ∉ levels.drop count) ∨
    ∀ other ∈ levels, other ∉ set ∨ other = level

instance (statement : Statement) (levels set : List TypedField) (level : TypedField) :
    Decidable (statement.ParentRolled levels set level) :=
  inferInstanceAs (Decidable (_ ∨ _))

variable {statement : Statement} {levels set : List TypedField} {level : TypedField}
  {measures : List TypedMeasure} {ancestors : List Field}

theorem levels_subset : statement.levels ancestors ⊆ statement.select := by
  intro level listed
  obtain ⟨ancestor, -, found⟩ := List.mem_filterMap.mp listed
  exact List.mem_of_find?_eq_some found

/-- A selected column is a level if an ancestor has its name. -/
theorem mem_levels_iff
    (told : ∀ field ∈ statement.select, ∀ other ∈ statement.select, field.name = other.name → field = other)
    {field : TypedField} (selected : field ∈ statement.select) :
    field ∈ statement.levels ancestors ↔ field.name ∈ ancestors.map Field.name := by
  unfold levels
  rw [List.mem_filterMap, List.mem_map]
  refine exists_congr fun ancestor => and_congr_right fun _ => ?_
  constructor
  · intro found
    have named : field.name = ancestor.name := by simpa using List.find?_some found
    exact named.symm
  · intro same
    have some := List.find?_isSome (p := fun field : TypedField => field.name = ancestor.name).mpr
      ⟨field, selected, decide_eq_true same.symm⟩
    obtain ⟨other, found⟩ := Option.isSome_iff_exists.mp some
    have named : other.name = ancestor.name := by simpa using List.find?_some found
    rw [found, told other (List.mem_of_find?_eq_some found) field selected (named.trans same)]

theorem mem_dropColumn {field : TypedField} :
    field ∈ dropColumn level set ↔ field ∈ set ∧ field ≠ level := by
  simp [dropColumn]

theorem toFinset_dropColumn (level : TypedField) (set : List TypedField) :
    (dropColumn level set).toFinset = set.toFinset.erase level := by
  ext field
  rw [List.mem_toFinset, mem_dropColumn, Finset.mem_erase, List.mem_toFinset, and_comm]

theorem sameSet_iff_toFinset_eq {other : List TypedField} (selected : set ⊆ statement.select)
    (otherSelected : other ⊆ statement.select) :
    statement.SameSet set other ↔ set.toFinset = other.toFinset := by
  rw [Finset.ext_iff]
  simp only [List.mem_toFinset]
  refine forall_congr' fun field => ⟨fun same => ?_, fun same _ => same⟩
  by_cases here : field ∈ statement.select
  · exact same here
  · exact iff_of_false (fun listed => here (selected listed)) fun listed => here (otherSelected listed)

/-! ### Sets of the rollup along levels -/

section

variable (unlisted : statement.groupingSets = []) (checked : statement.check = .ok ())
  (selected : levels ⊆ statement.select)

include checked selected in
theorem rollup_rolledAlong_subset :
    (statement.rolledAlong levels measures).rollup ⊆ statement.select := by
  have own := ((check_eq_ok_iff statement).mp checked).1
  refine List.append_subset.mpr ⟨?_, List.reverse_subset.mpr selected⟩
  exact List.Subset.trans List.filter_sublist.subset own

include unlisted checked selected in
theorem check_rolledAlong : (statement.rolledAlong levels measures).check = .ok () := by
  refine (check_eq_ok_iff _).mpr ⟨rollup_rolledAlong_subset checked selected, .inr unlisted, ?_⟩
  exact ((check_eq_ok_iff statement).mp checked).2.2

/-- What a set lacks that keeps part of the own columns alone: the rest of them, and all levels. -/
theorem lacks_of_few {kept : Nat}
    (few : kept ≤ (statement.rollup.filter fun field => !levels.contains field).length) {field : TypedField} :
    field ∈ (statement.rolledAlong levels measures).rollup ∧
        field ∉ (statement.rolledAlong levels measures).rollup.take kept ↔
      field ∈ levels ∨ field ∈ statement.rollup ∧ field ∉ levels ∧
        field ∉ (statement.rollup.filter fun field => !levels.contains field).take kept := by
  have taken : (statement.rolledAlong levels measures).rollup.take kept =
      (statement.rollup.filter fun field => !levels.contains field).take kept :=
    List.take_append_of_le_length few
  have apart : field ∈ (statement.rollup.filter fun field => !levels.contains field).take kept →
      field ∉ levels := fun listed => by
    simpa using (List.mem_filter.mp (List.mem_of_mem_take listed)).2
  have rolled : field ∈ (statement.rolledAlong levels measures).rollup ↔
      field ∈ statement.rollup ∧ field ∉ levels ∨ field ∈ levels := by
    simp [rolledAlong]
  rw [taken, rolled]
  tauto

/-- What a set lacks that keeps all own columns: the finest levels. -/
theorem lacks_of_many {count : Nat} {field : TypedField} :
    field ∈ (statement.rolledAlong levels measures).rollup ∧
        field ∉ (statement.rolledAlong levels measures).rollup.take
          ((statement.rollup.filter fun field => !levels.contains field).length + (levels.length - count)) ↔
      field ∈ levels.take count ∧ field ∉ levels.drop count := by
  have taken : (statement.rolledAlong levels measures).rollup.take
      ((statement.rollup.filter fun field => !levels.contains field).length + (levels.length - count)) =
      (statement.rollup.filter fun field => !levels.contains field) ++ (levels.drop count).reverse := by
    refine (List.take_length_add_append _).trans (congrArg _ ?_)
    rw [List.take_reverse]
    refine congrArg List.reverse ?_
    rcases Nat.le_total count levels.length with within | beyond
    · rw [Nat.sub_sub_self within]
    · rw [Nat.sub_eq_zero_of_le beyond, Nat.sub_zero, List.drop_length, List.drop_of_length_le beyond]
  have parts : field ∈ levels ↔ field ∈ levels.take count ∨ field ∈ levels.drop count := by
    rw [← List.mem_append, List.take_append_drop]
  rw [taken]
  simp only [rolledAlong, List.mem_append, List.mem_filter, List.mem_reverse, Bool.not_eq_true',
    List.contains_eq_mem, decide_eq_false_iff_not]
  tauto

/-- The set that keeps a part of a rollup along levels is a set of the statement without a level. -/
theorem sameSet_rolledAlong_iff {own kept : Nat} :
    statement.SameSet ((statement.rolledAlong levels measures).rolledSet kept)
        (dropColumn level (statement.rolledSet own)) ↔
      ∀ field ∈ statement.select, field ∉ statement.rolledSet own ∨ field = level ↔
        field ∈ (statement.rolledAlong levels measures).rollup ∧
          field ∉ (statement.rolledAlong levels measures).rollup.take kept := by
  refine forall₂_congr fun field here => ?_
  rw [← @not_mem_rolledSet (statement.rolledAlong levels measures) field here kept, mem_dropColumn]
  tauto

theorem length_rollup_rolledAlong : (statement.rolledAlong levels measures).rollup.length =
    (statement.rollup.filter fun field => !levels.contains field).length + levels.length := by
  simp [rolledAlong]

theorem take_filter_take {α : Type} (items : List α) (chosen : α → Bool) (count : Nat) :
    (items.filter chosen).take ((items.take count).filter chosen).length =
      (items.take count).filter chosen := by
  conv_lhs => rw [← List.take_append_drop count items, List.filter_append]
  rw [List.take_append_drop]
  exact List.take_left

include unlisted selected in
theorem parentRolled_of_exists {own : Nat} (parent : ∃ other ∈
    (statement.rolledAlong levels measures).groupingSetList,
      statement.SameSet other (dropColumn level (statement.rolledSet own))) :
    statement.ParentRolled levels (statement.rolledSet own) level := by
  obtain ⟨other, otherListed, same⟩ := parent
  have unlistedAlong : (statement.rolledAlong levels measures).groupingSets = [] := unlisted
  obtain ⟨kept, within, rfl⟩ := (mem_groupingSetList_rolled unlistedAlong).mp otherListed
  rw [length_rollup_rolledAlong] at within
  rw [sameSet_rolledAlong_iff] at same
  rcases Nat.le_total kept (statement.rollup.filter fun field => !levels.contains field).length with
    few | many
  · exact .inr fun other here =>
      (same other (selected here)).mpr ((lacks_of_few few).mpr (.inl here))
  · obtain ⟨more, rfl⟩ := Nat.exists_eq_add_of_le many
    refine .inl ⟨levels.length - more, List.mem_range.mpr (by omega), fun field here => ?_⟩
    have more_eq : levels.length - (levels.length - more) = more := Nat.sub_sub_self (by omega)
    rw [same field here, ← @lacks_of_many statement levels measures, more_eq]

include unlisted selected in
/-- A set without one of its levels is a set of the rollup along the levels in two cases only. -/
theorem exists_parent_iff (measures : List TypedMeasure) (listed : set ∈ statement.groupingSetList)
    (leveled : level ∈ levels) :
    (∃ other ∈ (statement.rolledAlong levels measures).groupingSetList,
        statement.SameSet other (dropColumn level set)) ↔ statement.ParentRolled levels set level := by
  obtain ⟨own, -, rfl⟩ := (mem_groupingSetList_rolled unlisted).mp listed
  have unlistedAlong : (statement.rolledAlong levels measures).groupingSets = [] := unlisted
  refine ⟨parentRolled_of_exists unlisted selected, ?_⟩
  rintro (⟨count, inRange, same⟩ | all)
  · refine ⟨_, (mem_groupingSetList_rolled unlistedAlong).mpr
      ⟨(statement.rollup.filter fun field => !levels.contains field).length + (levels.length - count),
        ?_, rfl⟩, sameSet_rolledAlong_iff.mpr fun field here => ?_⟩
    · rw [length_rollup_rolledAlong]
      exact Nat.add_le_add_left (Nat.sub_le _ _) _
    · exact (same field here).trans lacks_of_many.symm
  · -- The set of the parents keeps those of the own columns that the set keeps.
    have few : ((statement.rollup.take own).filter fun field => !levels.contains field).length ≤
        (statement.rollup.filter fun field => !levels.contains field).length :=
      ((List.take_sublist own statement.rollup).filter _).length_le
    refine ⟨_, (mem_groupingSetList_rolled unlistedAlong).mpr
      ⟨((statement.rollup.take own).filter fun field => !levels.contains field).length, ?_, rfl⟩,
        sameSet_rolledAlong_iff.mpr fun field here => ?_⟩
    · rw [length_rollup_rolledAlong]
      exact few.trans (Nat.le_add_right _ _)
    · have others := all field
      rw [not_mem_rolledSet here] at others ⊢
      rw [lacks_of_few few, take_filter_take]
      simp only [List.mem_filter, Bool.not_eq_true', List.contains_eq_mem, decide_eq_false_iff_not]
      have own_level : field = level → field ∈ levels := fun same => same ▸ leveled
      tauto

include unlisted checked selected in
theorem erase_mem_sets_iff (listed : set ∈ statement.groupingSetList) (leveled : level ∈ levels) :
    set.toFinset.erase level ∈
        (statement.rolledAlong levels measures).groupingSetList.map List.toFinset ↔
      statement.ParentRolled levels set level := by
  rw [← exists_parent_iff unlisted selected measures listed leveled, List.mem_map,
    ← toFinset_dropColumn]
  have unlistedAlong : (statement.rolledAlong levels measures).groupingSets = [] := unlisted
  have own := ((check_eq_ok_iff statement).mp checked).1
  refine exists_congr fun other => and_congr_right fun otherListed => ?_
  obtain ⟨kept, -, rfl⟩ := (mem_groupingSetList_rolled unlisted).mp listed
  obtain ⟨otherKept, -, rfl⟩ := (mem_groupingSetList_rolled unlistedAlong).mp otherListed
  refine (sameSet_iff_toFinset_eq ?_ ?_).symm
  · exact @rolledSet_subset (statement.rolledAlong levels measures)
      (rollup_rolledAlong_subset checked selected) otherKept
  · exact List.Subset.trans List.filter_sublist.subset (rolledSet_subset own kept)

end

/-- A rollup of distinct columns lacks those behind the ones it keeps. -/
theorem not_mem_rolledSet_iff_mem_drop (distinct : statement.rollup.Nodup) {own : Nat} {field : TypedField}
    (selected : field ∈ statement.select) :
    field ∉ statement.rolledSet own ↔ field ∈ statement.rollup.drop own := by
  have split := List.take_append_drop own statement.rollup
  rw [not_mem_rolledSet selected]
  rw [← split] at distinct
  have apart := (List.nodup_append'.mp distinct).2.2
  constructor
  · rintro ⟨rolled, dropped⟩
    rw [← split] at rolled
    exact (List.mem_append.mp rolled).resolve_left dropped
  · exact fun inBack => ⟨List.mem_of_mem_drop inBack, fun inFront => apart inFront inBack⟩

/-- Where the columns of a rollup are the finest levels, a set of it lacks those before the first that it
has. -/
theorem mem_finer_iff {own : Nat} {finer coarser : List TypedField}
    (distinct : (finer ++ level :: coarser).Nodup)
    (hierarchy : statement.rollup.reverse <+: finer ++ level :: coarser)
    (chosen : level ∈ statement.select) (left : level ∈ statement.rolledSet own)
    (before : ∀ field ∈ finer, field ∉ statement.rolledSet own) {field : TypedField}
    (selected : field ∈ statement.select) : field ∉ statement.rolledSet own ↔ field ∈ finer := by
  refine ⟨fun dropped => ?_, before field⟩
  have rollup_distinct : statement.rollup.Nodup :=
    List.nodup_reverse.mp (distinct.sublist hierarchy.sublist)
  have gone : (statement.rollup.drop own).reverse <+: finer ++ [level] ++ coarser := by
    refine List.IsPrefix.trans ⟨(statement.rollup.take own).reverse, ?_⟩ (by simpa using hierarchy)
    rw [← List.reverse_append, List.take_append_drop]
  have kept : level ∉ (statement.rollup.drop own).reverse := fun inBack =>
    (not_mem_rolledSet_iff_mem_drop rollup_distinct chosen).mpr (List.mem_reverse.mp inBack) left
  rw [not_mem_rolledSet_iff_mem_drop rollup_distinct selected, ← List.mem_reverse] at dropped
  rcases List.prefix_or_prefix_of_prefix gone (List.prefix_append _ _) with within | beyond
  · rcases List.prefix_concat_iff.mp within with whole | finest
    · exact absurd (whole ▸ List.mem_append_right _ (List.mem_singleton_self level)) kept
    · exact finest.subset dropped
  · exact absurd (beyond.subset (List.mem_append_right _ (List.mem_singleton_self level))) kept

/-- If no columns are rolled up but the finest levels, the coarser before the finer, every set has its
parent. -/
theorem parentRolled_of_hierarchy (unlisted : statement.groupingSets = [])
    (selected : levels ⊆ statement.select) (distinct : levels.Nodup)
    (hierarchy : statement.rollup.reverse <+: levels) (listed : set ∈ statement.groupingSetList)
    (first : levels.find? (fun level => level ∈ set) = some level) :
    statement.ParentRolled levels set level := by
  obtain ⟨own, -, rfl⟩ := (mem_groupingSetList_rolled unlisted).mp listed
  obtain ⟨left, finer, coarser, rfl, before⟩ := List.find?_eq_some_iff_append.mp first
  simp only [decide_eq_true_eq, Bool.not_eq_true', decide_eq_false_iff_not] at left before
  have take_eq : (finer ++ level :: coarser).take (finer.length + 1) = finer ++ [level] := by
    simp [List.take_append]
  have drop_eq : (finer ++ level :: coarser).drop (finer.length + 1) = coarser := by
    simp [List.drop_append]
  refine .inl ⟨finer.length + 1, by simp, fun field here => ?_⟩
  have chosen : level ∈ statement.select := selected (List.mem_append_right _ List.mem_cons_self)
  rw [mem_finer_iff distinct hierarchy chosen left before here, take_eq, drop_eq]
  have apart : field ∈ finer ++ [level] → field ∉ coarser := by
    rw [List.append_cons, List.nodup_append'] at distinct
    exact fun inFront inBack => distinct.2.2 inFront inBack
  rw [List.mem_append, List.mem_singleton] at apart ⊢
  tauto

/-- A set that lacks a column besides the levels has its parent only if it has one level alone. -/
theorem parentRolled_iff_of_dropped {field : TypedField} (selected : field ∈ statement.select)
    (dropped : field ∉ set) (besides : field ∉ levels) :
    statement.ParentRolled levels set level ↔ ∀ other ∈ levels, other ∉ set ∨ other = level := by
  refine or_iff_right ?_
  rintro ⟨count, -, same⟩
  exact besides (List.mem_of_mem_take ((same field selected).mp (.inl dropped)).1)

/-- Columns that are called what the fields of a scope are. -/
structure KeepsNames (statement : Statement) (scope : Scope) : Prop where
  select : statement.select.map TypedField.name = scope.columns.map Field.name
  rollup : statement.rollup.map TypedField.name = scope.rollup.map Field.name

end Statement

namespace Scope

variable {datastore : Datastore} {scope reference : Scope} {measures operands : List Measure}
  {statement parents : Statement} {ancestors : List Field}

/-- Over tables columns keep their names. -/
theorem keepsNames_of_tables (lowered : scope.lower datastore measures = .ok statement)
    (tables : scope.subQuery = none) : statement.KeepsNames scope := by
  obtain ⟨resolver, source, made, -, parts⟩ := lower_spec lowered
  rw [parts (.refl scope), lowerParts_eq_ok] at lowered
  have outputs := Resolver.outputs_of_ofScope made tables
  have named {fields : List Field} {typed : List TypedField}
      (resolved : fields.mapM resolver.resolve = .ok typed) :
      typed.map TypedField.name = fields.map Field.name :=
    map_eq_of_mapM resolved fun field _ typed _ read => Resolver.name_of_resolve outputs read
  exact ⟨named lowered.select, named lowered.rollup⟩

theorem groupingSets_of_lower (lowered : scope.lower datastore measures = .ok statement)
    (unlisted : scope.groupingSets = []) : statement.groupingSets = [] := by
  obtain ⟨resolver, source, made, -, parts⟩ := lower_spec lowered
  rw [parts (.refl scope), lowerParts_eq_ok] at lowered
  have sets := lowered.groupingSets
  rw [unlisted] at sets
  exact (Except.ok.inj sets).symm

section

variable {resolver : Resolver} {fields : List Field} {typed : List TypedField}
  (resolved : List.Forall₂ (fun field column => resolver.resolve field = .ok column) fields typed)
  (names : typed.map TypedField.name = fields.map Field.name)

include resolved names

/-- The first column of a name, in the scope and in its statement. -/
theorem find?_rel (name : String) : Option.Rel (fun field column => resolver.resolve field = .ok column)
    (fields.find? fun field => field.name = name) (typed.find? fun column => column.name = name) := by
  induction resolved with
  | nil => exact .none
  | cons first _ ih =>
    obtain ⟨same, others⟩ := List.cons.inj names
    rw [List.find?_cons, List.find?_cons, same]
    split
    · exact .some first
    · exact ih others

theorem filter_rel (chosen : String → Bool) :
    List.Forall₂ (fun field column => resolver.resolve field = .ok column)
      (fields.filter fun field => chosen field.name) (typed.filter fun column => chosen column.name) := by
  induction resolved with
  | nil => exact .nil
  | cons first _ ih =>
    obtain ⟨same, others⟩ := List.cons.inj names
    rw [List.filter_cons, List.filter_cons, same]
    split
    · exact .cons first (ih others)
    · exact ih others

end

/-- The rollup of the parents is that of the scope without the levels, and then the levels, the coarsest
first. -/
theorem lower_parentRollup {resolver : Resolver}
    (columns : scope.columns.mapM resolver.resolve = .ok statement.select)
    (rollup : scope.rollup.mapM resolver.resolve = .ok statement.rollup) (named : statement.KeepsNames scope)
    (checked : statement.check = .ok ())
    (told : ∀ field ∈ statement.select, ∀ other ∈ statement.select, field.name = other.name → field = other) :
    (scope.parentRollup ancestors).mapM resolver.resolve =
      .ok ((statement.rollup.filter fun field => !(statement.levels ancestors).contains field) ++
        (statement.levels ancestors).reverse) := by
  rw [mapM_eq_ok] at columns rollup ⊢
  refine List.rel_append ?_ ?_
  · have others : (statement.rollup.filter fun field => !(statement.levels ancestors).contains field) =
        statement.rollup.filter fun field => !(ancestors.map Field.name).contains field.name := by
      refine List.filter_congr fun field rolled => congrArg _ ?_
      have selected := ((Statement.check_eq_ok_iff statement).mp checked).1 rolled
      rw [List.contains_eq_mem, List.contains_eq_mem]
      exact decide_eq_decide.mpr (Statement.mem_levels_iff told selected)
    rw [others]
    exact filter_rel rollup named.rollup fun name => !(ancestors.map Field.name).contains name
  · unfold Statement.levels
    rw [← List.filterMap_reverse]
    refine List.rel_filterMap (R := Eq) ?_ (List.forall₂_refl _)
    rintro ancestor _ rfl
    exact find?_rel columns named.select ancestor.name

/-- The scope of parents has the statement that is rolled up along the levels. -/
theorem lower_forParents (lowered : scope.lower datastore measures = .ok statement)
    (parentsLowered : (scope.forParents ancestors).lower datastore operands = .ok parents)
    (checked : statement.check = .ok ()) (named : statement.KeepsNames scope)
    (told : ∀ field ∈ statement.select, ∀ other ∈ statement.select, field.name = other.name → field = other) :
    parents = statement.rolledAlong (statement.levels ancestors) parents.measures := by
  obtain ⟨resolver, source, made, -, parts⟩ := lower_spec lowered
  rw [parts (.refl scope), lowerParts_eq_ok] at lowered
  rw [parts (show scope.SameSource (scope.forParents ancestors) from ⟨rfl, rfl, rfl⟩)] at parentsLowered
  have again : Lowers (scope.forParents ancestors) resolver source operands
      (statement.rolledAlong (statement.levels ancestors) parents.measures) :=
    { lowered with
      rollup := lower_parentRollup lowered.select lowered.rollup named checked told
      measures := (lowerParts_eq_ok.mp parentsLowered).measures
      havingCriteria := rfl
      limit := rfl }
  exact Except.ok.inj (parentsLowered.symm.trans (lowerParts_eq_ok.mpr again))

end Scope

end CubeQuery
