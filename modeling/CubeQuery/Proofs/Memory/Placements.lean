import CubeQuery.Proofs.Execution.Vectors
import CubeQuery.Proofs.Memory.Rows

/-! Rows of buckets. A bucket has the row of a group where it lists the value of the group in one of the
selected columns, so what stands in the rows of the buckets is told by the groups. -/

namespace CubeQuery.MemoryDatabase

variable {statement : Statement} {rows : List Row}

/-- The value of a group in the column of a name. -/
def cellOf (statement : Statement) (group : List TypedField × List Value) (name : String) : Value :=
  (pointOf statement group)[(statement.select.map TypedField.name).idxOf name]?.getD .null

/-- The groups of the rows of a scope, one for each bucket that lists the row, with how often its bucket
stands there. -/
def placedGroups (buckets : Option BucketSet) (statement : Statement) (rows : List Row) :
    List ((List TypedField × List Value) × Nat) :=
  match buckets with
  | none => (shown statement rows).map fun group => (group, 1)
  | some set => (shown statement rows).flatMap fun group =>
      let names := set.bucketsOf (cellOf statement group set.field.name)
      names.map fun name => (group, names.count name)

/-- A grouping column has the cells of the points at the place of its name. -/
theorem Shows.cell_eq {table : Table} (shows : Shows statement rows table) {name : String} {source : Column}
    (grouped : name ∈ statement.select.map TypedField.name) (found : table.find? name = some source)
    (row : Nat) :
    source.cell row = (table.point row)[(statement.select.map TypedField.name).idxOf name]?.getD .null := by
  rw [← shows.groupingNames] at grouped ⊢
  have inside := List.idxOf_lt_length_iff.mpr grouped
  have width : table.groupingNames.length = table.groupingColumns.length := List.length_map _
  rw [width] at inside
  have column_name : table.groupingColumns[table.groupingNames.idxOf name].name = name :=
    (List.getElem_map Column.name).symm.trans (List.getElem_idxOf (width ▸ inside))
  have same := shows.formed.find?_eq_some (List.filter_sublist.subset (List.getElem_mem inside))
  rw [column_name, found] at same
  unfold Table.point Table.cells
  rw [List.getElem?_map, List.getElem?_eq_getElem inside, Option.some.inj same]
  rfl

/-- The rows of the buckets, each with its point and its bucket. -/
theorem Shows.placements_eq {table : Table} (shows : Shows statement rows table) {set : BucketSet}
    {source : Column} (grouped : set.field.name ∈ statement.select.map TypedField.name)
    (found : table.find? set.field.name = some source) :
    (set.placements source).map (fun (row, bucket) => (table.point row, bucket)) =
      (shown statement rows).flatMap fun group =>
        (set.bucketsOf (cellOf statement group set.field.name)).map (pointOf statement group, ·) := by
  have height : source.values.length = table.rowCount :=
    shows.formed.lengths source (Table.mem_of_find? found)
  have points := congrArg (List.flatMap fun point : List Value => (set.bucketsOf
    (point[(statement.select.map TypedField.name).idxOf set.field.name]?.getD .null)).map (point, ·))
      shows.points
  rw [List.flatMap_map, List.flatMap_map] at points
  unfold BucketSet.placements
  rw [List.map_flatMap, height]
  simp only [List.map_map, shows.cell_eq grouped found]
  exact points

theorem Shows.points_withBuckets {table : Table} (shows : Shows statement rows table) {set : BucketSet}
    {source : Column} (grouped : set.field.name ∈ statement.select.map TypedField.name)
    (found : table.find? set.field.name = some source) :
    (table.withBuckets set source).rowIndices.map (table.withBuckets set source).point =
      (shown statement rows).flatMap fun group =>
        (set.bucketsOf (cellOf statement group set.field.name)).map fun bucket =>
          .str bucket :: pointOf statement group := by
  have placed := congrArg (List.map fun (point, bucket) => Value.str bucket :: point)
    (shows.placements_eq grouped found)
  rw [List.map_map, List.map_flatMap] at placed
  simp only [List.map_map] at placed
  exact (Table.points_withBuckets table set source).trans placed

end CubeQuery.MemoryDatabase
