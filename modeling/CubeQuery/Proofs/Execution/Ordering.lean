import Mathlib.Order.Defs.Unbundled
import CubeQuery.Proofs.Execution.Results
import CubeQuery.Proofs.Order

/-! The order of the rows of a result. Under every key totals come first and only equal cells are level, so keys
compare rows in a strict weak order. Rows are sorted by it, level rows keep their places, and rows that are in
order already stay where they are. -/

namespace CubeQuery

open Steps

/-! ### Cells -/

namespace Value

theorem compare_eq_eq {a b : Value} : compare a b = .eq ↔ a = b :=
  ⟨Value.eq_of_compare_eq, fun same => same ▸ Std.ReflCmp.compare_self⟩

theorem transCmp : Std.TransCmp (compare : Value → Value → Ordering) where
  isLE_trans {a b c} first second := by
    have moved := ascending_trans a b c
    simp only [bne_iff_ne, ne_eq, ← Ordering.isLE_iff_ne_gt] at moved
    exact moved first second

end Value

namespace SortOrder

/-- When a cell stands before another under an order. -/
inductive Before : SortOrder → Value → Value → Prop where
  | total {order : SortOrder} {b : Value} (other : b ≠ .total) : Before order .total b
  | ascending {a b : Value} (plain : a ≠ .total ∧ b ≠ .total) (less : compare a b = .lt) :
      Before (.simple .asc) a b
  | descending {a b : Value} (plain : a ≠ .total ∧ b ≠ .total) (more : compare b a = .lt) :
      Before (.simple .desc) a b
  | listed {values : List Value} {a b : Value} {i j : Nat} (plain : a ≠ .total ∧ b ≠ .total)
      (first : values.idxOf? a = some i) (second : values.idxOf? b = some j) (less : i < j) :
      Before (.explicit values) a b
  | unlisted {values : List Value} {a b : Value} (plain : a ≠ .total ∧ b ≠ .total) (first : a ∈ values)
      (second : b ∉ values) : Before (.explicit values) a b
  | others {values : List Value} {a b : Value} (plain : a ≠ .total ∧ b ≠ .total) (first : a ∉ values)
      (second : b ∉ values) (less : compare a b = .lt) : Before (.explicit values) a b

theorem Before.other_ne_total {order : SortOrder} {a b : Value} (before : order.Before a b) : b ≠ .total := by
  cases before with
  | total other => exact other
  | ascending plain | descending plain | listed plain | unlisted plain | others plain => exact plain.2

theorem idxOf?_eq_some {values : List Value} {a : Value} (listed : a ∈ values) :
    values.idxOf? a = some (values.idxOf a) := by
  cases found : values.idxOf? a with
  | none => exact absurd listed (List.idxOf?_eq_none_iff.mp found)
  | some i => rw [List.idxOf_eq_getD_idxOf?, found, Option.getD_some]

/-- Listed values come in the order of their places, and for the others the place behind the list is one. -/
theorem compareListed_eq (values : List Value) (a b : Value) :
    compareListed values a b = (compare (values.idxOf a) (values.idxOf b)).then (compare a b) := by
  unfold compareListed
  by_cases first : a ∈ values <;> by_cases second : b ∈ values
  · rw [idxOf?_eq_some first, idxOf?_eq_some second]
    by_cases same : a = b
    · subst same
      rw [Value.compare_eq_eq.mpr rfl]
      exact (Nat.compare_eq_eq.mpr rfl).trans (by rw [Nat.compare_eq_eq.mpr rfl]; rfl)
    · have apart : compare (values.idxOf a) (values.idxOf b) ≠ .eq := fun level =>
        same ((List.idxOf_inj first).mp (Nat.compare_eq_eq.mp level))
      cases order : compare (values.idxOf a) (values.idxOf b) <;> simp_all
  · have behind : values.idxOf a < values.length := List.idxOf_lt_length_iff.mpr first
    rw [idxOf?_eq_some first, List.idxOf?_eq_none_iff.mpr second, List.idxOf_eq_length second,
      Nat.compare_eq_lt.mpr behind]
    rfl
  · have behind : values.idxOf b < values.length := List.idxOf_lt_length_iff.mpr second
    rw [idxOf?_eq_some second, List.idxOf?_eq_none_iff.mpr first, List.idxOf_eq_length first,
      Nat.compare_eq_gt.mpr behind]
    rfl
  · rw [List.idxOf?_eq_none_iff.mpr first, List.idxOf?_eq_none_iff.mpr second, List.idxOf_eq_length first,
      List.idxOf_eq_length second, Nat.compare_eq_eq.mpr rfl]
    rfl

theorem compareValues_eq_eq {order : SortOrder} {a b : Value} : order.compareValues a b = .eq ↔ a = b := by
  cases order with
  | simple direction =>
    cases direction with
    | asc => exact Value.compare_eq_eq
    | desc => exact Value.compare_eq_eq.trans eq_comm
  | explicit values =>
    show compareListed values a b = .eq ↔ a = b
    rw [compareListed_eq, Ordering.then_eq_eq, Value.compare_eq_eq]
    exact ⟨And.right, fun same => ⟨by rw [same]; exact Std.ReflCmp.compare_self, same⟩⟩

theorem transCmp_compareValues (order : SortOrder) : Std.TransCmp order.compareValues := by
  have values := Value.transCmp
  cases order with
  | simple direction =>
    cases direction with
    | asc => exact values
    | desc => exact @Std.TransCmp.opposite _ compare values
  | explicit listed =>
    have places : Std.TransCmp (compareLex (compareOn fun value : Value => listed.idxOf value) compare) :=
      inferInstance
    have same : SortOrder.compareValues (.explicit listed) =
        compareLex (compareOn fun value : Value => listed.idxOf value) compare := by
      funext a b
      exact compareListed_eq listed a b
    rw [same]
    exact places

/-- Totals are first and level with each other. -/
def totalPlace (value : Value) : Nat := if value.isTotal then 0 else 1

theorem totalPlace_eq (value : Value) : totalPlace value = if value = .total then 0 else 1 := by
  unfold totalPlace
  simp only [Value.isTotal_iff]

theorem compareCells_eq (order : SortOrder) (a b : Value) :
    order.compareCells a b = (compare (totalPlace a) (totalPlace b)).then (order.compareValues a b) := by
  unfold compareCells compareTotals totalPlace
  cases first : a.isTotal <;> cases second : b.isTotal
  · rfl
  · rfl
  · rfl
  · rw [Value.isTotal_iff.mp first, Value.isTotal_iff.mp second, compareValues_eq_eq.mpr rfl]
    rfl

theorem transCmp_compareCells (order : SortOrder) : Std.TransCmp order.compareCells := by
  have values := transCmp_compareValues order
  have lex : Std.TransCmp (compareLex (compareOn totalPlace) order.compareValues) := inferInstance
  have same : order.compareCells = compareLex (compareOn totalPlace) order.compareValues := by
    funext a b
    exact compareCells_eq order a b
  rw [same]
  exact lex

/-- Only equal cells are level. -/
theorem compareCells_eq_eq {order : SortOrder} {a b : Value} : order.compareCells a b = .eq ↔ a = b := by
  rw [compareCells_eq, Ordering.then_eq_eq, compareValues_eq_eq]
  exact ⟨And.right, fun same => ⟨by rw [same]; exact Std.ReflCmp.compare_self, same⟩⟩

theorem compareValues_eq_lt {order : SortOrder} {a b : Value} (plain : a ≠ .total ∧ b ≠ .total) :
    order.compareValues a b = .lt ↔ order.Before a b := by
  constructor
  · intro less
    cases order with
    | simple direction =>
      cases direction with
      | asc => exact .ascending plain less
      | desc => exact .descending plain less
    | explicit values =>
      replace less : compareListed values a b = .lt := less
      unfold compareListed at less
      split at less
      next i j first second => exact .listed plain first second (Nat.compare_eq_lt.mp less)
      next i first second =>
        refine .unlisted plain ?_ (List.idxOf?_eq_none_iff.mp second)
        by_contra absent
        rw [List.idxOf?_eq_none_iff.mpr absent] at first
        cases first
      next => cases less
      next first second =>
        exact .others plain (List.idxOf?_eq_none_iff.mp first) (List.idxOf?_eq_none_iff.mp second) less
  · intro before
    cases before with
    | total => exact absurd rfl plain.1
    | ascending _ less => exact less
    | descending _ more => exact more
    | listed _ first second less =>
      show compareListed _ a b = .lt
      unfold compareListed
      rw [first, second]
      exact Nat.compare_eq_lt.mpr less
    | unlisted _ first second =>
      show compareListed _ a b = .lt
      unfold compareListed
      rw [idxOf?_eq_some first, List.idxOf?_eq_none_iff.mpr second]
    | others _ first second less =>
      show compareListed _ a b = .lt
      unfold compareListed
      rw [List.idxOf?_eq_none_iff.mpr first, List.idxOf?_eq_none_iff.mpr second]
      exact less

theorem compareCells_eq_lt {order : SortOrder} {a b : Value} :
    order.compareCells a b = .lt ↔ order.Before a b := by
  rw [compareCells_eq, Ordering.then_eq_lt, Nat.compare_eq_lt, Nat.compare_eq_eq, totalPlace_eq, totalPlace_eq]
  by_cases first : a = .total <;> by_cases second : b = .total
  · subst first second
    have level : order.compareValues .total .total = .eq := compareValues_eq_eq.mpr rfl
    simp only [level]
    refine ⟨by simp, fun before => absurd rfl before.other_ne_total⟩
  · subst first
    simpa [second] using .total second
  · subst second
    simpa [first] using fun before => before.other_ne_total rfl
  · simpa [first, second] using compareValues_eq_lt ⟨first, second⟩

end SortOrder

/-! ### Stable sorting -/

/-- Different items do not follow each other both ways. -/
theorem not_sublist_swap {α : Type} {items : List α} (distinct : items.Nodup) {a b : α}
    (one : [a, b].Sublist items) : ¬[b, a].Sublist items := by
  induction items with
  | nil => cases one
  | cons first rest ih =>
    obtain ⟨new, others⟩ := List.nodup_cons.mp distinct
    intro other
    cases one with
    | cons _ one =>
      cases other with
      | cons _ other => exact ih others one other
      | cons_cons _ _ => exact new (one.subset (by simp))
    | cons_cons _ after =>
      cases other with
      | cons _ other => exact new (other.subset (by simp))
      | cons_cons _ _ => exact new (after.subset (by simp))

/-- In an ascending list a lesser number stands before a greater one. -/
theorem pair_sublist_of_lt {rows : List Nat} (ascending : rows.Pairwise (· < ·)) {a b : Nat} (first : a ∈ rows)
    (second : b ∈ rows) (less : a < b) : [a, b].Sublist rows :=
  List.sublist_of_subperm_of_pairwise
    (List.subperm_of_subset (by simpa using Nat.ne_of_lt less) (by simp [first, second]))
    (by simpa using less) ascending

/-- Sorted rows are in order, and level ones in their old order. -/
theorem pairwise_mergeSort_rows {cmp : Nat → Nat → Ordering} (trans : Std.TransCmp cmp) {rows : List Nat}
    (ascending : rows.Pairwise (· < ·)) :
    (rows.mergeSort fun a b => cmp a b != .gt).Pairwise fun a b => cmp a b = .lt ∨ cmp a b = .eq ∧ a < b := by
  have ascends : ∀ a b c, (cmp a b != .gt) = true → (cmp b c != .gt) = true → (cmp a c != .gt) = true := by
    simp only [bne_iff_ne, ne_eq, ← Ordering.isLE_iff_ne_gt]
    exact fun a b c => trans.isLE_trans
  have total : ∀ a b, (cmp a b != .gt || cmp b a != .gt) = true := fun a b => by
    rw [trans.eq_swap]
    cases cmp b a <;> rfl
  refine List.pairwise_iff_forall_sublist.mpr fun {a b} follows => ?_
  have inOrder := List.pairwise_iff_forall_sublist.mp (List.pairwise_mergeSort ascends total _) follows
  cases order : cmp a b with
  | lt => exact .inl rfl
  | gt => simp [order] at inOrder
  | eq =>
    have sorted := List.mergeSort_perm rows fun a b => cmp a b != .gt
    have distinct := sorted.nodup_iff.mpr (ascending.imp Nat.ne_of_lt)
    refine .inr ⟨rfl, ?_⟩
    rcases Nat.lt_trichotomy a b with less | rfl | more
    · exact less
    · exact absurd follows (List.nodup_iff_sublist.mp distinct a)
    · -- Two level rows that stand the other way round before stand so in the result, too.
      have listed {row : Nat} (member : row ∈ [a, b]) : row ∈ rows := sorted.subset (follows.subset member)
      have earlier := pair_sublist_of_lt ascending (listed (by simp)) (listed (by simp)) more
      have level : (cmp b a != .gt) = true := by
        rw [trans.eq_swap, order]
        rfl
      exact absurd (List.pair_sublist_mergeSort ascends total level earlier) (not_sublist_swap distinct follows)

theorem pairwise_mergeSort_range {cmp : Nat → Nat → Ordering} (trans : Std.TransCmp cmp) (count : Nat) :
    ((List.range count).mergeSort fun a b => cmp a b != .gt).Pairwise fun a b =>
      cmp a b = .lt ∨ cmp a b = .eq ∧ a < b :=
  pairwise_mergeSort_rows trans List.pairwise_lt_range

namespace Table

/-! ### Keys -/

/-- The keys that are asked for. Without orders each grouping column is one, ascending; else there is one for each
order, the first column with its name. -/
inductive Keyed (table : Table) : List (Field × SortOrder) → List SortKey → Prop where
  | ascending : Keyed table []
      ((table.columns.filter fun column => !column.header.isMeasure).map fun column => ⟨column, .simple .asc⟩)
  | ordered {orders : List (Field × SortOrder)} {keys : List SortKey} (asked : orders ≠ [])
      (named : List.Forall₂ (fun entry key =>
        table.columns.find? (·.name = entry.1.name) = some key.column ∧ key.order = entry.2) orders keys) :
      Keyed table orders keys

theorem sortKeys_eq_ok {table : Table} {orders : List (Field × SortOrder)} {keys : List SortKey} :
    table.sortKeys orders = .ok keys ↔ table.Keyed orders keys := by
  cases orders with
  | nil =>
    constructor
    · intro found
      obtain rfl := Except.ok.inj found
      exact .ascending
    · rintro (_ | ⟨asked, -⟩)
      · rfl
      · exact absurd rfl asked
  | cons first rest =>
    have each : table.sortKeys (first :: rest) = .ok keys ↔ List.Forall₂ (fun entry key =>
        table.columns.find? (·.name = entry.1.name) = some key.column ∧ key.order = entry.2) (first :: rest) keys := by
      refine mapM_eq_ok.trans (Iff.of_eq (congrArg (List.Forall₂ · _ _) (funext₂ fun entry key => propext ?_)))
      obtain ⟨column, order⟩ := key
      simp only [bind_eq_ok, column_eq_ok, pure_eq_ok, Except.ok.injEq, SortKey.mk.injEq]
      constructor
      · rintro ⟨_, found, rfl, same⟩
        exact ⟨found, same.symm⟩
      · rintro ⟨found, same⟩
        exact ⟨column, found, rfl, same.symm⟩
    rw [each]
    constructor
    · exact .ordered (List.cons_ne_nil _ _)
    · rintro (_ | ⟨-, named⟩)
      exact named

/-! ### Rows -/

/-- When a row stands before another: by the first key in which their cells differ. -/
inductive Precedes : List SortKey → Nat → Nat → Prop where
  | here {key : SortKey} {keys : List SortKey} {a b : Nat}
      (before : key.order.Before (key.column.cell a) (key.column.cell b)) : Precedes (key :: keys) a b
  | later {key : SortKey} {keys : List SortKey} {a b : Nat}
      (same : key.column.cell a = key.column.cell b) (rest : Precedes keys a b) : Precedes (key :: keys) a b

/-- Rows that have the same cells in all keys. -/
def Level (keys : List SortKey) (a b : Nat) : Prop := ∀ key ∈ keys, key.column.cell a = key.column.cell b

theorem compareRows_eq_lt {keys : List SortKey} {a b : Nat} :
    compareRows keys a b = .lt ↔ Precedes keys a b := by
  induction keys with
  | nil => exact ⟨nofun, nofun⟩
  | cons key keys ih =>
    unfold compareRows
    rw [Ordering.then_eq_lt, SortOrder.compareCells_eq_lt, SortOrder.compareCells_eq_eq, ih]
    constructor
    · rintro (before | ⟨same, rest⟩)
      · exact .here before
      · exact .later same rest
    · intro precedes
      cases precedes with
      | here before => exact .inl before
      | later same rest => exact .inr ⟨same, rest⟩

theorem compareRows_eq_eq {keys : List SortKey} {a b : Nat} :
    compareRows keys a b = .eq ↔ Level keys a b := by
  unfold Level
  induction keys with
  | nil => simp [compareRows]
  | cons key keys ih =>
    unfold compareRows
    rw [Ordering.then_eq_eq, SortOrder.compareCells_eq_eq, ih, List.forall_mem_cons]

theorem transCmp_compareRows (keys : List SortKey) : Std.TransCmp (compareRows keys) := by
  induction keys with
  | nil => exact { eq_swap := rfl, isLE_trans := fun _ _ => rfl }
  | cons key keys ih =>
    have cells := SortOrder.transCmp_compareCells key.order
    have here : Std.TransCmp fun a b => key.order.compareCells (key.column.cell a) (key.column.cell b) :=
      { eq_swap := cells.eq_swap, isLE_trans := cells.isLE_trans }
    exact (inferInstance : Std.TransCmp (compareLex
      (fun a b => key.order.compareCells (key.column.cell a) (key.column.cell b)) (compareRows keys)))

/-- Rows are compared in a strict weak order. -/
theorem isStrictWeakOrder_precedes (keys : List SortKey) : IsStrictWeakOrder Nat (Precedes keys) := by
  have trans := transCmp_compareRows keys
  have level {a b : Nat} : ¬Precedes keys a b ∧ ¬Precedes keys b a ↔ Level keys a b := by
    have swapped : compareRows keys b a = (compareRows keys a b).swap := trans.eq_swap
    rw [← compareRows_eq_lt, ← compareRows_eq_lt, ← compareRows_eq_eq, swapped]
    cases compareRows keys a b <;> simp
  refine { irrefl := fun a before => ?_, trans := fun a b c first second => ?_,
           incomp_trans := fun a b c first second => ?_ }
  · exact (level.mpr fun _ _ => rfl).1 before
  · rw [← compareRows_eq_lt] at first second ⊢
    exact Std.TransCmp.lt_trans first second
  · exact level.mpr fun key listed =>
      (level.mp first key listed).trans (level.mp second key listed)

/-! ### Tables -/

variable {table : Table} {orders : List (Field × SortOrder)} {keys : List SortKey} {places : List Nat}

/-- A table has the rows of another, sorted by keys. -/
structure IsSorting (table : Table) (keys : List SortKey) (places : List Nat) (result : Table) : Prop where
  headers : result.headers = table.headers
  rows : result.rows = places.map table.row
  perm : places.Perm table.rowIndices
  sorted : places.Pairwise fun a b => Precedes keys a b ∨ Level keys a b ∧ a < b

/-- There is one way to sort. -/
theorem IsSorting.eq_places {result : Table} (sorting : table.IsSorting keys places result) {others : List Nat}
    (perm : others.Perm table.rowIndices)
    (sorted : others.Pairwise fun a b => Precedes keys a b ∨ Level keys a b ∧ a < b) : others = places := by
  have strict := isStrictWeakOrder_precedes keys
  have apart {a b : Nat} (before : Precedes keys a b) : ¬Level keys b a := fun level => by
    rw [← compareRows_eq_lt] at before
    rw [← compareRows_eq_eq, (transCmp_compareRows keys).eq_swap, before] at level
    cases level
  refine List.Perm.eq_of_pairwise (fun a b _ _ one other => ?_) sorted sorting.sorted
    (perm.trans sorting.perm.symm)
  rcases one with before | ⟨level, less⟩ <;> rcases other with behind | ⟨other, more⟩
  · exact absurd (strict.trans _ _ _ before behind) (strict.irrefl a)
  · exact absurd other (apart before)
  · exact absurd level (apart behind)
  · omega

theorem exists_keys (known : ∀ entry ∈ orders, entry.1.name ∈ table.names) :
    ∃ keys, table.sortKeys orders = .ok keys := by
  cases orders with
  | nil => exact ⟨_, rfl⟩
  | cons first rest =>
    refine exists_mapM fun entry listed => ?_
    obtain ⟨column, found⟩ := Option.isSome_iff_exists.mp (find?_isSome.mpr (known entry listed))
    exact ⟨⟨column, entry.2⟩, bind_eq_ok.mpr ⟨column, column_eq_ok.mpr found, rfl⟩⟩

def SortKey.take (rows : List Nat) (key : SortKey) : SortKey := ⟨key.column.take rows, key.order⟩

theorem sortKeys_takeRows (found : table.sortKeys orders = .ok keys) (rows : List Nat) :
    (table.takeRows rows).sortKeys orders = .ok (keys.map (SortKey.take rows)) := by
  cases orders with
  | nil =>
    obtain rfl := Except.ok.inj found
    refine congrArg Except.ok ?_
    rw [groupingColumns_takeRows, List.map_map, List.map_map]
    rfl
  | cons first rest =>
    refine mapM_eq_ok.mpr (List.forall₂_map_right_iff.mpr ((mapM_eq_ok.mp found).imp fun entry key made => ?_))
    obtain ⟨column, columnFound, made⟩ := bind_eq_ok.mp made
    obtain rfl := Except.ok.inj made
    refine bind_eq_ok.mpr ⟨column.take rows, column_eq_ok.mpr ?_, rfl⟩
    rw [find?_takeRows, column_eq_ok.mp columnFound]
    rfl

theorem compareRows_take (keys : List SortKey) {rows : List Nat} {a b : Nat} (first : a < rows.length)
    (second : b < rows.length) :
    compareRows (keys.map (SortKey.take rows)) a b = compareRows keys rows[a] rows[b] := by
  induction keys with
  | nil => rfl
  | cons key keys ih =>
    rw [List.map_cons, compareRows, compareRows, ih]
    unfold SortKey.take
    rw [Column.cell_take first, Column.cell_take second]

/-- Without columns there are no rows. -/
theorem places_eq_nil (perm : places.Perm table.rowIndices) (empty : table.columns = []) : places = [] := by
  have none : table.rowIndices = [] := by
    unfold rowIndices rowCount
    rw [empty]
    rfl
  exact List.perm_nil.mp (none ▸ perm)

theorem rowCount_takeRows_perm (perm : places.Perm table.rowIndices) :
    (table.takeRows places).rowCount = places.length := by
  by_cases empty : table.columns = []
  · rw [places_eq_nil perm empty]
    unfold rowCount takeRows
    rw [empty]
    rfl
  · exact rowCount_takeRows empty

theorem rows_takeRows_perm (perm : places.Perm table.rowIndices) :
    (table.takeRows places).rows = places.map table.row := by
  by_cases empty : table.columns = []
  · have count := rowCount_takeRows_perm perm
    rw [places_eq_nil perm empty] at count ⊢
    unfold rows rowIndices
    rw [count]
    rfl
  · exact rows_takeRows empty

/-- All rows in their order are the table. -/
theorem takeRows_rowIndices {table : Table}
    (lengths : ∀ column ∈ table.columns, column.values.length = table.rowCount) :
    table.takeRows table.rowIndices = table := by
  obtain ⟨columns⟩ := table
  refine congrArg Table.mk ((List.map_congr_left fun column listed => ?_).trans (List.map_id _))
  obtain ⟨header, values⟩ := column
  exact congrArg (Column.mk header) (Column.map_cell (lengths _ listed))

/-- Rows that are in order stay where they are. -/
theorem ordered_takeRows (found : table.sortKeys orders = .ok keys) (perm : places.Perm table.rowIndices)
    (inOrder : places.Pairwise fun a b => (compareRows keys a b != .gt) = true) :
    (table.takeRows places).ordered orders = .ok (table.takeRows places) := by
  have count := rowCount_takeRows_perm perm
  have stays : ((table.takeRows places).rowIndices.mergeSort fun a b =>
      compareRows (keys.map (SortKey.take places)) a b != .gt) = (table.takeRows places).rowIndices := by
    refine List.mergeSort_of_pairwise (List.pairwise_iff_getElem.mpr fun a b first second less => ?_)
    unfold rowIndices at first second ⊢
    rw [List.length_range, count] at first second
    rw [List.getElem_range, List.getElem_range, compareRows_take keys first second]
    exact List.pairwise_iff_getElem.mp inOrder a b first second less
  have lengths : ∀ column ∈ (table.takeRows places).columns,
      column.values.length = (table.takeRows places).rowCount := by
    intro column listed
    obtain ⟨whole, -, rfl⟩ := List.mem_map.mp listed
    rw [count]
    exact List.length_map _
  unfold ordered
  rw [sortKeys_takeRows found, ok_bind, stays, takeRows_rowIndices lengths]
  rfl

/-- A table whose columns the orders name is sorted by them, totals before all else, each key in its own order,
and level rows as they stood. The keys compare in a strict weak order, and sorting again changes nothing. -/
theorem ordered_sorts (table : Table) (orders : List (Field × SortOrder))
    (known : ∀ entry ∈ orders, entry.1.name ∈ table.names) :
    ∃ keys places result, table.Keyed orders keys ∧ table.ordered orders = .ok result ∧
      IsStrictWeakOrder Nat (fun a b => compareRows keys a b = .lt) ∧ table.IsSorting keys places result ∧
      result.ordered orders = .ok result := by
  obtain ⟨keys, found⟩ := exists_keys known
  have trans := transCmp_compareRows keys
  have sorted := pairwise_mergeSort_range trans table.rowCount
  have perm : (table.rowIndices.mergeSort fun a b => compareRows keys a b != .gt).Perm table.rowIndices :=
    List.mergeSort_perm _ _
  refine ⟨keys, table.rowIndices.mergeSort fun a b => compareRows keys a b != .gt, _, sortKeys_eq_ok.mp found, ?_, ?_,
    ?_, ordered_takeRows found perm (sorted.imp ?_)⟩
  · unfold ordered
    rw [found]
    rfl
  · simp only [compareRows_eq_lt]
    exact isStrictWeakOrder_precedes keys
  · refine ⟨?_, ?_, perm, ?_⟩
    · unfold headers takeRows
      rw [List.map_map]
      rfl
    · exact rows_takeRows_perm perm
    · simp only [compareRows_eq_lt, compareRows_eq_eq] at sorted
      exact sorted
  · rintro a b (less | ⟨level, -⟩)
    · rw [less]
      rfl
    · rw [level]
      rfl

/-- The rows of a sorting, found as places that are in order. -/
theorem IsSorting.rows_eq {result : Table} (sorting : table.IsSorting keys places result) (others : List Nat)
    (perm : others.Perm table.rowIndices)
    (inOrder : others.Pairwise fun a b => compareRows keys a b = .lt ∨ compareRows keys a b = .eq ∧ a < b) :
    result.rows = others.map table.row := by
  simp only [compareRows_eq_lt, compareRows_eq_eq] at inOrder
  rw [sorting.eq_places perm inOrder]
  exact sorting.rows

/-! ### Scenarios by country -/

def scenarioColumn : Column :=
  ⟨.grouping "scenario" .string, [.str "s1", .total, .str "base", .str "s2", .str "base"]⟩

def countryColumn : Column :=
  ⟨.grouping "country" .string, [.str "fr", .total, .str "fr", .str "de", .str "de"]⟩

def priceColumn : Column := ⟨.measure "p" .long, [.int 2, .int 9, .int 3, .int 4, .int 5]⟩

def scenarioPrices : Table := ⟨[scenarioColumn, countryColumn, priceColumn]⟩

def scenarioOrder : SortOrder := .explicit [.str "s2", .str "base"]

/-- By scenario in a listed order, and then by price from the highest on. -/
def twoOrders : List (Field × SortOrder) :=
  [(.ofName "scenario", scenarioOrder), (.ofName "p", .simple .desc)]

/-- Totals are first. The two base rows stay in their order before the scenario that is not listed, and a second
order tells them apart; without orders the scenarios ascend, and then the countries. -/
theorem scenarios_sorted :
    (∀ entry ∈ twoOrders, entry.1.name ∈ scenarioPrices.names) ∧
      (∃ result, scenarioPrices.ordered [(.ofName "scenario", scenarioOrder)] = .ok result ∧
        result.rows = [[.total, .total, .int 9], [.str "s2", .str "de", .int 4], [.str "base", .str "fr", .int 3],
          [.str "base", .str "de", .int 5], [.str "s1", .str "fr", .int 2]] ∧
        result.ordered [(.ofName "scenario", scenarioOrder)] = .ok result) ∧
      (∃ result, scenarioPrices.ordered twoOrders = .ok result ∧
        result.rows = [[.total, .total, .int 9], [.str "s2", .str "de", .int 4], [.str "base", .str "de", .int 5],
          [.str "base", .str "fr", .int 3], [.str "s1", .str "fr", .int 2]] ∧
        result.ordered twoOrders = .ok result) ∧
      ∃ result, scenarioPrices.ordered [] = .ok result ∧
        result.rows = [[.total, .total, .int 9], [.str "base", .str "de", .int 5], [.str "base", .str "fr", .int 3],
          [.str "s1", .str "fr", .int 2], [.str "s2", .str "de", .int 4]] ∧
        result.ordered [] = .ok result := by
  have known : ∀ entry ∈ twoOrders, entry.1.name ∈ scenarioPrices.names := by decide
  refine ⟨known, ?_, ?_, ?_⟩
  · have first : ∀ entry ∈ [(Field.ofName "scenario", scenarioOrder)], entry.1.name ∈ scenarioPrices.names := by
      decide
    obtain ⟨keys, places, result, keyed, made, -, sorting, again⟩ := ordered_sorts scenarioPrices _ first
    have keys_eq : scenarioPrices.sortKeys [(.ofName "scenario", scenarioOrder)] =
        .ok [⟨scenarioColumn, scenarioOrder⟩] := rfl
    obtain rfl := Except.ok.inj ((sortKeys_eq_ok.mpr keyed).symm.trans keys_eq)
    have rows := sorting.rows_eq [1, 3, 2, 4, 0] (by decide) (by decide +kernel)
    exact ⟨result, made, rows, again⟩
  · obtain ⟨keys, places, result, keyed, made, -, sorting, again⟩ := ordered_sorts scenarioPrices twoOrders known
    have keys_eq : scenarioPrices.sortKeys twoOrders =
        .ok [⟨scenarioColumn, scenarioOrder⟩, ⟨priceColumn, .simple .desc⟩] := rfl
    obtain rfl := Except.ok.inj ((sortKeys_eq_ok.mpr keyed).symm.trans keys_eq)
    have rows := sorting.rows_eq [1, 3, 4, 2, 0] (by decide) (by decide +kernel)
    exact ⟨result, made, rows, again⟩
  · obtain ⟨keys, places, result, keyed, made, -, sorting, again⟩ :=
      ordered_sorts scenarioPrices [] fun _ none => absurd none List.not_mem_nil
    have keys_eq : scenarioPrices.sortKeys [] =
        .ok [⟨scenarioColumn, .simple .asc⟩, ⟨countryColumn, .simple .asc⟩] := rfl
    obtain rfl := Except.ok.inj ((sortKeys_eq_ok.mpr keyed).symm.trans keys_eq)
    have rows := sorting.rows_eq [1, 4, 2, 0, 3] (by decide) (by decide +kernel)
    exact ⟨result, made, rows, again⟩

end Table

end CubeQuery
