import CubeQuery.Execution.Buckets
import CubeQuery.Proofs.Table.Agreement

/-! Tables with the column of a bucket set: rows of the table, each as often as buckets list it. -/

namespace CubeQuery

open Steps

namespace Table

variable {table follower : Table} {rows : List Nat}

/-- The table with the buckets of its rows. -/
def withBuckets (table : Table) (set : BucketSet) (source : Column) : Table :=
  ⟨⟨.grouping set.newColumn.name .string, (set.placements source).map fun (_, bucket) => .str bucket⟩ ::
    (table.takeRows ((set.placements source).map (·.1))).columns⟩

theorem expandSet_eq_ok {set : BucketSet} {expanded : Table} :
    table.expandSet set = .ok expanded ↔ ∃ source, table.find? set.field.name = some source ∧
      set.newColumn.name ∉ table.names ∧ expanded = table.withBuckets set source := by
  unfold expandSet
  cases found : table.find? set.field.name with
  | none => simp
  | some source =>
    have nonempty : table.columns ≠ [] := List.ne_nil_of_mem (mem_of_find? found)
    have length : ((set.placements source).map fun (_, bucket) => Value.str bucket).length =
        (table.takeRows ((set.placements source).map (·.1))).rowCount := by
      rw [rowCount_takeRows nonempty, List.length_map, List.length_map]
    by_cases taken : set.newColumn.name ∈ table.names
    · have again : ((table.takeRows ((set.placements source).map (·.1))).find?
          set.newColumn.name).isSome = true := by
        rw [find?_isSome, names_takeRows]
        exact taken
      simp [insertColumn, again, taken, Column.name, Header.grouping]
    · have free : (table.takeRows ((set.placements source).map (·.1))).find? set.newColumn.name = none := by
        rw [find?_eq_none, names_takeRows]
        exact taken
      simp only [insertColumn, Column.name, Header.grouping, free, length]
      simp [taken, withBuckets, Header.grouping, eq_comm]

theorem expandBuckets_eq_ok {scope : Scope} {expanded : Table} :
    table.expandBuckets scope = .ok expanded ↔ (scope.bucketSet = none ∧ expanded = table) ∨
      ∃ set source, scope.bucketSet = some set ∧ table.find? set.field.name = some source ∧
        set.newColumn.name ∉ table.names ∧ expanded = table.withBuckets set source := by
  unfold expandBuckets
  cases scope.bucketSet with
  | none => simp [eq_comm]
  | some set => simp [expandSet_eq_ok]

theorem rowCount_withBuckets (table : Table) (set : BucketSet) (source : Column) :
    (table.withBuckets set source).rowCount = (set.placements source).length := List.length_map _

theorem find?_withBuckets (table : Table) (set : BucketSet) (source : Column) (name : String) :
    (table.withBuckets set source).find? name =
      if set.newColumn.name = name then
        some ⟨.grouping set.newColumn.name .string,
          (set.placements source).map fun (_, bucket) => .str bucket⟩
      else (table.find? name).map (Column.take ((set.placements source).map (·.1))) := by
  rw [← find?_takeRows]
  unfold withBuckets Table.find?
  rw [List.find?_cons]
  by_cases here : set.newColumn.name = name
  · simp [here, Column.name, Header.grouping]
  · simp [here, Column.name, Header.grouping]

theorem lengths_withBuckets (table : Table) (set : BucketSet) (source : Column) :
    ∀ column ∈ (table.withBuckets set source).columns,
      column.values.length = (table.withBuckets set source).rowCount := by
  intro column listed
  rw [rowCount_withBuckets]
  rcases List.mem_cons.mp listed with rfl | taken
  · exact List.length_map _
  · obtain ⟨before, -, rfl⟩ := List.mem_map.mp taken
    exact (List.length_map _).trans (List.length_map _)

theorem Agrees.withBuckets (agrees : follower.Agrees table) (set : BucketSet) (source : Column) :
    (follower.withBuckets set source).Agrees (table.withBuckets set source) where
  found := by
    intro name
    have rest : (follower.takeRows ((set.placements source).map (·.1))).find? name =
        (table.takeRows ((set.placements source).map (·.1))).find? name := by
      rw [find?_takeRows, find?_takeRows, agrees.found]
    unfold Table.withBuckets Table.find? at *
    rw [List.find?_cons, List.find?_cons, rest]
  grouping := by
    have rest : (follower.takeRows ((set.placements source).map (·.1))).groupingColumns =
        (table.takeRows ((set.placements source).map (·.1))).groupingColumns := by
      rw [groupingColumns_takeRows, groupingColumns_takeRows, agrees.grouping]
    unfold Table.withBuckets groupingColumns at *
    rw [List.filter_cons, List.filter_cons, rest]
  rows := by rw [rowCount_withBuckets, rowCount_withBuckets]

/-- Tables that agree still do so with their buckets. -/
theorem Agrees.expandBuckets (agrees : follower.Agrees table) {scope : Scope} {expanded : Table}
    (ran : table.expandBuckets scope = .ok expanded) :
    ∃ other, follower.expandBuckets scope = .ok other ∧ other.Agrees expanded := by
  rcases expandBuckets_eq_ok.mp ran with ⟨none, rfl⟩ | ⟨set, source, buckets, found, free, rfl⟩
  · exact ⟨follower, expandBuckets_eq_ok.mpr (.inl ⟨none, rfl⟩), agrees⟩
  · refine ⟨follower.withBuckets set source, expandBuckets_eq_ok.mpr (.inr ⟨set, source, buckets, ?_, ?_,
      rfl⟩), agrees.withBuckets set source⟩
    · rw [agrees.found, found]
    · rw [← find?_eq_none, agrees.found, find?_eq_none]
      exact free

theorem lengths_expandBuckets (lengths : ∀ column ∈ table.columns, column.values.length = table.rowCount)
    {scope : Scope} {expanded : Table} (ran : table.expandBuckets scope = .ok expanded) :
    ∀ column ∈ expanded.columns, column.values.length = expanded.rowCount := by
  rcases expandBuckets_eq_ok.mp ran with ⟨-, rfl⟩ | ⟨set, source, -, -, -, rfl⟩
  · exact lengths
  · exact table.lengths_withBuckets set source

theorem WellFormed.expandBuckets (formed : table.WellFormed) {scope : Scope} {expanded : Table}
    (ran : table.expandBuckets scope = .ok expanded) : expanded.WellFormed where
  lengths := lengths_expandBuckets formed.lengths ran
  distinct := by
    rcases expandBuckets_eq_ok.mp ran with ⟨-, rfl⟩ | ⟨set, source, -, -, free, rfl⟩
    · exact formed.distinct
    · rw [← table.names_takeRows ((set.placements source).map (·.1))] at free
      have distinct := formed.distinct
      rw [← table.names_takeRows ((set.placements source).map (·.1))] at distinct
      exact List.nodup_cons.mpr ⟨free, distinct⟩

/-- A bucket column is no measure. -/
theorem exists_of_expandBuckets {scope : Scope} {expanded : Table}
    (ran : table.expandBuckets scope = .ok expanded) {column : Column} (listed : column ∈ expanded.columns)
    (measure : column.header.isMeasure = true) : ∃ before ∈ table.columns, before.header = column.header := by
  rcases expandBuckets_eq_ok.mp ran with ⟨-, rfl⟩ | ⟨set, source, -, -, -, rfl⟩
  · exact ⟨column, listed, rfl⟩
  · rcases List.mem_cons.mp listed with rfl | taken
    · cases measure
    · obtain ⟨before, member, rfl⟩ := List.mem_map.mp taken
      exact ⟨before, member, rfl⟩

theorem nonempty_expandBuckets (nonempty : table.columns ≠ []) {scope : Scope} {expanded : Table}
    (ran : table.expandBuckets scope = .ok expanded) : expanded.columns ≠ [] := by
  rcases expandBuckets_eq_ok.mp ran with ⟨-, rfl⟩ | ⟨set, source, -, -, -, rfl⟩
  · exact nonempty
  · exact List.cons_ne_nil _ _

end Table

end CubeQuery
