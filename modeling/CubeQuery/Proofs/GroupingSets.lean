import CubeQuery.Memory.Database
import CubeQuery.Proofs.Sql.Writing
import Mathlib.Data.Finset.Dedup
import Mathlib.Data.Finset.Lattice.Lemmas
import Mathlib.Data.Finset.SDiff
import Mathlib.Data.List.Infix

/-! A clause that groups rows is written in one of several forms, and the form depends on the
dialect. Whatever the form, it stands for the grouping sets that the database in memory computes:
the same sets of columns in the same order. The columns of one set may be listed in another order,
because a rollup that is spelled out keeps the order of the select list. -/

namespace CubeQuery

open Steps

/-- What a text that groups rows means in SQL. A rollup groups by each of its beginnings, the
longest first, and every beginning is joined to the columns outside of the rollup. -/
inductive GroupsBy (dialect : Dialect) : String → List (List TypedField) → Prop where
  | absent : GroupsBy dialect "" [[]]
  | columns {plain : List TypedField} {plainText : String}
      (plainWritten : GroupBy.columnList ", " dialect plain = .ok plainText) :
      GroupsBy dialect (" group by " ++ plainText) [plain]
  | rollup {rolled : List TypedField} {rolledText : String}
      (rolledWritten : GroupBy.columnList ", " dialect rolled = .ok rolledText) :
      GroupsBy dialect (" group by rollup(" ++ rolledText ++ ")") rolled.inits.reverse
  | partialRollup {plain rolled : List TypedField} {plainText rolledText : String}
      (plainWritten : GroupBy.columnList ", " dialect plain = .ok plainText)
      (rolledWritten : GroupBy.columnList ", " dialect rolled = .ok rolledText) :
      GroupsBy dialect (" group by " ++ plainText ++ ", rollup(" ++ rolledText ++ ")")
        (rolled.inits.reverse.map fun kept => plain ++ kept)
  | spelledOut {sets : List (List TypedField)} {setTexts : List String}
      (setsWritten : sets.mapM (GroupBy.setSql dialect) = .ok setTexts) :
      GroupsBy dialect (" group by grouping sets (" ++ ",".intercalate setTexts ++ ")") sets
  | listed {sets : List (List TypedField)} {setTexts : List String}
      (setsWritten : sets.mapM (GroupBy.setSql dialect) = .ok setTexts) :
      GroupsBy dialect (" group by grouping sets(" ++ ", ".intercalate setTexts ++ ")") sets

/-! ### Beginnings of a rollup -/

theorem map_take_eq_inits_reverse {α : Type} (rolled : List α) :
    ((List.range (rolled.length + 1)).map fun dropped => rolled.take (rolled.length - dropped)) =
      rolled.inits.reverse := by
  apply List.ext_getElem
  · simp
  · intro index below _
    simp only [List.length_map, List.length_range] at below
    simp only [List.getElem_map, List.getElem_range, List.getElem_reverse, List.getElem_inits,
      List.length_inits]
    congr 1

theorem inits_concat_reverse {α : Type} (kept : List α) (last : α) :
    (kept ++ [last]).inits.reverse = (kept ++ [last]) :: kept.inits.reverse := by
  rw [List.inits_append]
  simp

theorem inits_reverse_eq_cons {α : Type} (kept : List α) :
    kept.inits.reverse = kept :: kept.inits.reverse.tail := by
  rcases List.eq_nil_or_concat kept with empty | ⟨front, last, split⟩
  · rw [empty]
    rfl
  · rw [split, List.concat_eq_append, inits_concat_reverse, List.tail_cons]

/-! ### Sets of columns -/

theorem toFinset_filter_not_contains {α : Type} [DecidableEq α] (select removed : List α) :
    (select.filter fun field => !removed.contains field).toFinset =
      select.toFinset \ removed.toFinset := by
  ext field
  simp

/-- Removing the end of a rollup from the select list leaves the plain columns with the beginning
of the rollup, provided that no column of the beginning is listed again at the end. -/
theorem toFinset_removed_end {α : Type} [DecidableEq α] (select kept removed : List α)
    (distinct : (kept ++ removed).Nodup) (selected : kept ++ removed ⊆ select) :
    (select.filter fun field => !removed.contains field).toFinset =
      ((select.filter fun field => !(kept ++ removed).contains field) ++ kept).toFinset := by
  rw [toFinset_filter_not_contains, List.toFinset_append, toFinset_filter_not_contains,
    List.toFinset_append]
  have apart : kept.Disjoint removed := (List.nodup_append'.mp distinct).2.2
  ext field
  have notBoth := @apart field
  have chosen : field ∈ kept → field ∈ select := fun listed =>
    selected (List.mem_append_left _ listed)
  simp only [Finset.mem_sdiff, Finset.mem_union, List.mem_toFinset]
  tauto

/-- The induction is on the beginning of the rollup from its end, the order in which columns are
dropped; `removed` collects those that are gone. -/
theorem toFinset_dropping (select kept removed : List TypedField)
    (distinct : (kept ++ removed).Nodup) (selected : kept ++ removed ⊆ select) :
    (GroupBy.dropping select removed kept.reverse).map List.toFinset =
      kept.inits.reverse.tail.map fun beginning =>
        ((select.filter fun field => !(kept ++ removed).contains field) ++ beginning).toFinset := by
  induction kept using List.reverseRecOn generalizing removed with
  | nil => simp [GroupBy.dropping]
  | append_singleton kept last ih =>
    have moved : kept ++ [last] ++ removed = kept ++ (last :: removed) := by simp
    rw [moved] at distinct selected ⊢
    rw [inits_concat_reverse, List.tail_cons]
    simp only [List.reverse_append, List.reverse_cons, List.reverse_nil, List.nil_append,
      List.singleton_append, GroupBy.dropping, List.map_cons]
    rw [ih (last :: removed) distinct selected,
      toFinset_removed_end select kept (last :: removed) distinct selected]
    conv_rhs => rw [inits_reverse_eq_cons kept]
    rw [List.map_cons]

/-! ### Sets of a statement -/

namespace Statement

variable {statement : Statement}

theorem groupingSetList_listed (listed : statement.groupingSets ≠ []) :
    statement.groupingSetList = statement.groupingSets := by
  have nonempty : statement.groupingSets.isEmpty = false := by simpa using listed
  unfold groupingSetList
  rw [nonempty]
  rfl

/-- The columns outside of the rollup with a beginning of it. -/
def rolledSet (statement : Statement) (kept : Nat) : List TypedField :=
  (statement.select.filter fun field => !statement.rollup.contains field) ++ statement.rollup.take kept

theorem groupingSetList_rolled (unlisted : statement.groupingSets = []) :
    statement.groupingSetList = (List.range (statement.rollup.length + 1)).map fun dropped =>
      statement.rolledSet (statement.rollup.length - dropped) := by
  unfold groupingSetList
  rw [unlisted]
  rfl

theorem mem_groupingSetList_rolled (unlisted : statement.groupingSets = []) {set : List TypedField} :
    set ∈ statement.groupingSetList ↔ ∃ kept ≤ statement.rollup.length, statement.rolledSet kept = set := by
  rw [groupingSetList_rolled unlisted, List.mem_map]
  constructor
  · rintro ⟨dropped, -, rfl⟩
    exact ⟨_, Nat.sub_le _ _, rfl⟩
  · rintro ⟨kept, within, rfl⟩
    refine ⟨statement.rollup.length - kept, List.mem_range.mpr (by omega), ?_⟩
    rw [Nat.sub_sub_self within]

theorem mem_rolledSet {field : TypedField} (selected : field ∈ statement.select) {kept : Nat} :
    field ∈ statement.rolledSet kept ↔ field ∉ statement.rollup ∨ field ∈ statement.rollup.take kept := by
  simp [rolledSet, selected]

/-- The columns that a set of a rollup lacks. -/
theorem not_mem_rolledSet {field : TypedField} (selected : field ∈ statement.select) {kept : Nat} :
    field ∉ statement.rolledSet kept ↔ field ∈ statement.rollup ∧ field ∉ statement.rollup.take kept := by
  rw [mem_rolledSet selected, not_or, not_not]

theorem rolledSet_subset (selected : statement.rollup ⊆ statement.select) (kept : Nat) :
    statement.rolledSet kept ⊆ statement.select :=
  List.append_subset.mpr
    ⟨List.filter_sublist.subset, List.Subset.trans (List.take_subset _ _) selected⟩

end Statement

/-! ### Accepted statements -/

namespace GroupBy

theorem sets_rollup (plain rolled : List TypedField) :
    (GroupBy.rollup plain rolled).sets = rolled.inits.reverse.map fun kept => plain ++ kept := by
  rw [← map_take_eq_inits_reverse, List.map_map]
  rfl

/-- Every form is written as a text that stands for the sets of the form. -/
theorem groupsBy_of_sql {dialect : Dialect} {clause : GroupBy} {text : String}
    (written : clause.sql dialect = .ok text) : GroupsBy dialect text clause.sets := by
  cases clause with
  | nothing =>
    obtain rfl : "" = text := Except.ok.inj written
    exact .absent
  | columns plain =>
    obtain ⟨plainText, plainWritten, same⟩ := bind_eq_ok.mp written
    obtain rfl := Except.ok.inj same
    exact .columns plainWritten
  | rollup plain rolled =>
    obtain ⟨plainText, plainWritten, rest⟩ := bind_eq_ok.mp written
    obtain ⟨rolledText, rolledWritten, same⟩ := bind_eq_ok.mp rest
    obtain rfl := Except.ok.inj same
    rw [sets_rollup]
    cases plain with
    | nil =>
      obtain rfl : "" = plainText := Except.ok.inj plainWritten
      simpa using GroupsBy.rollup rolledWritten
    | cons first others =>
      simpa [String.append_assoc] using GroupsBy.partialRollup plainWritten rolledWritten
  | expanded sets =>
    obtain ⟨setTexts, setsWritten, same⟩ := bind_eq_ok.mp written
    obtain rfl := Except.ok.inj same
    exact .spelledOut setsWritten
  | explicit sets =>
    obtain ⟨setTexts, setsWritten, same⟩ := bind_eq_ok.mp written
    obtain rfl := Except.ok.inj same
    exact .listed setsWritten

theorem toFinset_sets_ofStatement (dialect : Dialect) (statement : Statement)
    (accepted : statement.check = .ok ()) (distinct : statement.rollup.Nodup) :
    (ofStatement dialect statement).sets.map List.toFinset =
      statement.groupingSetList.map List.toFinset := by
  obtain ⟨selected, notBoth, -⟩ := (Statement.check_eq_ok_iff statement).mp accepted
  have listed_eq : statement.groupingSets = [] → statement.groupingSetList =
      (GroupBy.rollup (statement.select.filter fun field => !statement.rollup.contains field)
        statement.rollup).sets := by
    intro unlisted
    unfold Statement.groupingSetList
    rw [unlisted]
    rfl
  unfold ofStatement
  by_cases unlisted : statement.groupingSets = []
  · rw [listed_eq unlisted, unlisted]
    simp only [List.isEmpty_nil, Bool.not_true, Bool.false_eq_true, if_false]
    split_ifs with noSelect noRollup spelled
    · have empty : statement.select = [] := List.isEmpty_iff.mp noSelect
      rw [empty] at selected ⊢
      have unrolled : statement.rollup = [] := List.subset_nil.mp selected
      rw [unrolled]
      rfl
    · rw [List.isEmpty_iff.mp noRollup]
      simp [sets]
    · -- The select list is the first of the sets, before any column is dropped.
      have distinctEnd : (statement.rollup ++ []).Nodup := by rwa [List.append_nil]
      have selectedEnd : statement.rollup ++ [] ⊆ statement.select := by rwa [List.append_nil]
      have undropped := toFinset_removed_end statement.select statement.rollup [] distinctEnd
        selectedEnd
      have dropped := toFinset_dropping statement.select statement.rollup [] distinctEnd selectedEnd
      simp only [List.append_nil, List.contains_nil, Bool.not_false, List.filter_true] at undropped
      rw [List.append_nil] at dropped
      rw [sets_rollup, inits_reverse_eq_cons, List.map_cons, List.map_cons, List.map_map,
        ← undropped]
      change statement.select.toFinset :: _ = _
      rw [dropped]
      rfl
    · rfl
  · unfold Statement.groupingSetList
    have nonempty : statement.groupingSets.isEmpty = false := by simpa using unlisted
    rw [nonempty]
    rfl

/-- In every dialect an accepted statement is grouped by the sets that the database in memory
computes, and the written clause means those sets. -/
theorem written_sets_eq_computed_sets (dialect : Dialect) (statement : Statement)
    (accepted : statement.check = .ok ()) (distinct : statement.rollup.Nodup) :
    (ofStatement dialect statement).sets.map List.toFinset =
        statement.groupingSetList.map List.toFinset ∧
      ∀ text, (ofStatement dialect statement).sql dialect = .ok text →
        GroupsBy dialect text (ofStatement dialect statement).sets :=
  ⟨toFinset_sets_ofStatement dialect statement accepted distinct,
    fun _ written => groupsBy_of_sql written⟩

/-- A rollup of the last and the first of three columns, in a dialect that spells it out. -/
def rolledAroundMiddle : Statement where
  table := some (.ofName "sales")
  subQuery := none
  virtualTables := []
  select := [.column none "year" .int none, .column none "month" .int none,
    .column none "day" .int none]
  rollup := [.column none "day" .int none, .column none "year" .int none]
  groupingSets := []
  measures := []
  whereCriteria := none
  havingCriteria := none
  limit := none

theorem rolledAroundMiddle_sets :
    (ofStatement .bigquery rolledAroundMiddle).sets.map List.toFinset =
        rolledAroundMiddle.groupingSetList.map List.toFinset ∧
      GroupsBy .bigquery
        (" group by grouping sets ((\x60year\x60,\x60month\x60,\x60day\x60)," ++
          "(\x60month\x60,\x60day\x60),(\x60month\x60))")
        (ofStatement .bigquery rolledAroundMiddle).sets := by
  have both := written_sets_eq_computed_sets .bigquery rolledAroundMiddle rfl (by decide)
  exact ⟨both.1, both.2 _ (by decide)⟩

end GroupBy

end CubeQuery
