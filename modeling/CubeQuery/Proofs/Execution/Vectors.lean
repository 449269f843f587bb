import CubeQuery.Execution.Evaluation
import CubeQuery.Proofs.Execution.Buckets
import CubeQuery.Proofs.Order

/-! Vectors of rows. The elements at a point are in the order of the axis, and as far as an element depends on
its place on the axis alone, so does the vector. The rows of buckets have the vectors of the rows they come
from, with each element as often as the bucket lists the row. -/

namespace CubeQuery

open Steps

/-- The vector of the rows at a point. -/
def vectorAt (vectors : Table) (grouping : List Column) (axis : Column) (components : List Column)
    (transformer : Option String) (point : List Value) : Value :=
  match vectorRows vectors grouping axis point with
  | [] => .null
  | found => vectorValue transformer (found.map (vectorElement components))

/-- A vector with an element for each place on the axis, a number of times. -/
def vectorOf (transformer : Option String) (places : List Value) (times : Nat) (element : Value → Value) : Value :=
  match places with
  | [] => .null
  | places => vectorValue transformer (places.flatMap fun place => List.replicate times (element place))

theorem vectorColumn_eq_ok {components : List String} {axis : String} {transformer : Option String}
    {current vectors : Table} {values : List Value} :
    vectorColumn components axis transformer current vectors = .ok values ↔
      ∃ grouping axisColumn columns, vectors.columnsNamed current.groupingNames = .ok grouping ∧
        vectors.find? axis = some axisColumn ∧ vectors.columnsNamed components = .ok columns ∧
          values = (current.rowIndices.map current.point).map
            (vectorAt vectors grouping axisColumn columns transformer) := by
  unfold vectorColumn Table.lift
  simp only [bind_eq_ok, pure_eq_ok, mapError_eq_ok, Table.column_eq_ok, Except.ok.injEq, List.map_map]
  constructor
  · rintro ⟨grouping, named, axisColumn, onAxis, columns, measured, rfl⟩
    exact ⟨grouping, axisColumn, columns, named, onAxis, measured, rfl⟩
  · rintro ⟨grouping, axisColumn, columns, named, onAxis, measured, rfl⟩
    exact ⟨grouping, named, axisColumn, onAxis, columns, measured, rfl⟩

/-! ### Places on the axis -/

/-- Values in ascending order. -/
def InOrder (values : List Value) : Prop :=
  values.Pairwise fun a b => (compare a b != .gt) = true

theorem inOrder_mergeSort (values : List Value) :
    InOrder (values.mergeSort fun a b => compare a b != .gt) :=
  List.pairwise_mergeSort Value.ascending_trans Value.ascending_total values

theorem InOrder.repeated {values : List Value} (ascending : InOrder values) (times : Nat) :
    InOrder (values.flatMap (List.replicate times)) := by
  refine List.pairwise_flatMap.mpr ⟨fun value _ => List.pairwise_replicate.mpr (.inr (by simp)), ?_⟩
  refine ascending.imp ?_
  intro value later before item listed other otherListed
  rwa [List.eq_of_mem_replicate listed, List.eq_of_mem_replicate otherListed]

theorem InOrder.eq_of_perm {values others : List Value} (ascending : InOrder values)
    (otherAscending : InOrder others) (perm : values.Perm others) : values = others :=
  List.Perm.eq_of_pairwise (fun _ _ _ _ => Value.ascending_antisymm) ascending otherAscending perm

/-- Rows at a point have places on the axis, each a number of times, and an element for each place. -/
structure CollectsAt (vectors : Table) (grouping : List Column) (axis : Column) (components : List Column)
    (point places : List Value) (times : Nat) (element : Value → Value) : Prop where
  places : ((vectors.rowIndices.filter fun row => Table.cells grouping row = point).map axis.cell).Perm
    (places.flatMap (List.replicate times))
  elements : ∀ row ∈ vectors.rowIndices, Table.cells grouping row = point →
    vectorElement components row = element (axis.cell row)

variable {vectors : Table} {grouping : List Column} {axis : Column} {components : List Column}
  {point places : List Value} {times : Nat} {element : Value → Value}

theorem CollectsAt.map_cell (collects : CollectsAt vectors grouping axis components point places times element)
    (ascending : InOrder places) :
    (vectorRows vectors grouping axis point).map axis.cell = places.flatMap (List.replicate times) := by
  refine (List.map_mergeSort (s := fun a b => compare a b != .gt) fun _ _ _ _ => rfl).trans ?_
  exact (inOrder_mergeSort _).eq_of_perm (ascending.repeated times)
    ((List.mergeSort_perm _ _).trans collects.places)

theorem CollectsAt.map_element
    (collects : CollectsAt vectors grouping axis components point places times element) :
    (vectorRows vectors grouping axis point).map (vectorElement components) =
      ((vectorRows vectors grouping axis point).map axis.cell).map element := by
  rw [List.map_map]
  refine List.map_congr_left fun row listed => ?_
  obtain ⟨inTable, here⟩ := List.mem_filter.mp ((List.mergeSort_perm _ _).subset listed)
  exact collects.elements row inTable (of_decide_eq_true here)

/-- The vector has the elements in the order of their places. -/
theorem CollectsAt.vectorAt_eq
    (collects : CollectsAt vectors grouping axis components point places times element)
    (ascending : InOrder places) (some : 0 < times) (transformer : Option String) :
    vectorAt vectors grouping axis components transformer point =
      vectorOf transformer places times element := by
  have cells := collects.map_cell ascending
  have elements := collects.map_element
  rw [cells, List.map_flatMap] at elements
  simp only [List.map_replicate] at elements
  unfold vectorAt vectorOf
  cases places with
  | nil =>
    rw [List.flatMap_nil, List.map_eq_nil_iff] at cells
    rw [cells]
  | cons place rest =>
    cases found : vectorRows vectors grouping axis point with
    | nil =>
      rw [found, List.map_nil, List.flatMap_cons] at cells
      have none := (List.replicate_eq_nil_iff _).mp (List.append_eq_nil_iff.mp cells.symm).1
      exact absurd none (Nat.ne_of_gt some)
    | cons row rows =>
      rw [found] at elements
      exact congrArg (vectorValue transformer) elements

/-! ### Buckets -/

namespace Table

variable {table : Table} {set : BucketSet} {source : Column}

/-- The column of the buckets. -/
def bucketColumn (set : BucketSet) (source : Column) : Column :=
  ⟨.grouping set.newColumn.name .string, (set.placements source).map fun (_, bucket) => .str bucket⟩

/-- A column over the rows of the buckets. -/
abbrev placed (set : BucketSet) (source column : Column) : Column :=
  column.take ((set.placements source).map (·.1))

theorem rowIndices_withBuckets (table : Table) (set : BucketSet) (source : Column) :
    (table.withBuckets set source).rowIndices = List.range (set.placements source).length := by
  unfold rowIndices
  rw [rowCount_withBuckets]

theorem cells_withBuckets (set : BucketSet) (source : Column) (columns : List Column) {index : Nat}
    (here : index < (set.placements source).length) :
    cells (bucketColumn set source :: columns.map (placed set source)) index =
      .str (set.placements source)[index].2 :: cells columns (set.placements source)[index].1 := by
  refine congrArg₂ List.cons ?_ ((cells_take (by simpa using here) columns).trans (by rw [List.getElem_map]))
  unfold bucketColumn Column.cell
  simp [here]

theorem groupingColumns_withBuckets (table : Table) (set : BucketSet) (source : Column) :
    (table.withBuckets set source).groupingColumns =
      bucketColumn set source :: table.groupingColumns.map (placed set source) := by
  rw [← groupingColumns_takeRows]
  rfl

/-- The rows of the buckets in some columns. -/
theorem map_cells_withBuckets (table : Table) (set : BucketSet) (source : Column) (columns : List Column) :
    (table.withBuckets set source).rowIndices.map
        (cells (bucketColumn set source :: columns.map (placed set source))) =
      (set.placements source).map fun (row, bucket) => .str bucket :: cells columns row := by
  rw [rowIndices_withBuckets]
  refine List.ext_getElem (by simp) fun index here _ => ?_
  rw [List.getElem_map, List.getElem_map, List.getElem_range]
  exact cells_withBuckets set source columns (by simpa using here)

theorem points_withBuckets (table : Table) (set : BucketSet) (source : Column) :
    (table.withBuckets set source).rowIndices.map (table.withBuckets set source).point =
      (set.placements source).map fun (row, bucket) => .str bucket :: table.point row := by
  unfold point
  rw [groupingColumns_withBuckets]
  exact map_cells_withBuckets table set source table.groupingColumns

theorem groupingNames_withBuckets (table : Table) (set : BucketSet) (source : Column) :
    (table.withBuckets set source).groupingNames = set.newColumn.name :: table.groupingNames := by
  unfold groupingNames
  rw [groupingColumns_withBuckets, List.map_cons, List.map_map]
  rfl

/-- A column is found beside that of the buckets, unless it is named like the buckets. -/
theorem find?_placed {name : String} {column : Column} (found : table.find? name = some column)
    (free : set.newColumn.name ∉ table.names) :
    (table.withBuckets set source).find? name = some (placed set source column) := by
  have other : set.newColumn.name ≠ name := by
    rintro rfl
    exact free (find?_isSome.mp (found ▸ rfl))
  rw [find?_withBuckets, if_neg other, found]
  rfl

theorem columnsNamed_placed {names : List String} {columns : List Column}
    (found : table.columnsNamed names = .ok columns) (free : set.newColumn.name ∉ table.names) :
    (table.withBuckets set source).columnsNamed names = .ok (columns.map (placed set source)) := by
  rw [columnsNamed_eq_ok] at found ⊢
  exact List.forall₂_map_right_iff.mpr (found.imp fun _ _ here => find?_placed here free)

theorem columnsNamed_withBuckets {names : List String} {columns : List Column}
    (found : table.columnsNamed names = .ok columns) (free : set.newColumn.name ∉ table.names) :
    (table.withBuckets set source).columnsNamed (set.newColumn.name :: names) =
      .ok (bucketColumn set source :: columns.map (placed set source)) := by
  have first : (table.withBuckets set source).find? set.newColumn.name = some (bucketColumn set source) := by
    rw [find?_withBuckets, if_pos rfl]
    rfl
  exact columnsNamed_eq_ok.mpr (.cons first (columnsNamed_eq_ok.mp (columnsNamed_placed found free)))

end Table

theorem lt_of_mem_placements {set : BucketSet} {source : Column} {row : Nat} {bucket : String}
    (listed : (row, bucket) ∈ set.placements source) : row < source.values.length := by
  obtain ⟨other, inRange, buckets⟩ := List.mem_flatMap.mp listed
  obtain ⟨name, -, same⟩ := List.mem_map.mp buckets
  exact (Prod.mk.inj same).1 ▸ List.mem_range.mp inRange

theorem vectorElement_take {rows : List Nat} {index : Nat} (here : index < rows.length)
    (components : List Column) :
    vectorElement (components.map (Column.take rows)) index = vectorElement components rows[index] := by
  have cells := Table.cells_take here components
  match components with
  | [] | _ :: _ :: _ => exact congrArg Value.list cells
  | [component] => exact (List.cons.inj cells).1

theorem vectorElement_placed {set : BucketSet} {source : Column} {index : Nat}
    (here : index < (set.placements source).length) (components : List Column) :
    vectorElement (components.map (Table.placed set source)) index =
      vectorElement components (set.placements source)[index].1 :=
  (vectorElement_take (by simpa using here) components).trans (by rw [List.getElem_map])

/-- One row in one bucket, if it is at a point. -/
theorem placements_of_row {set : BucketSet} {value : Value} {row : Nat} {cell : Value}
    (told : Table.cells grouping row = point → cell = value) (bucket : String) :
    ((((set.bucketsOf cell).map (row, ·)).filter fun (row, name) =>
        name = bucket ∧ Table.cells grouping row = point).map fun (row, _) => axis.cell row) =
      if Table.cells grouping row = point
        then List.replicate ((set.bucketsOf value).count bucket) (axis.cell row) else [] := by
  rw [List.filter_map, List.map_map]
  by_cases here : Table.cells grouping row = point
  · rw [if_pos here, told here, List.count_eq_length_filter, ← List.map_const']
    simp [Function.comp_def, here, beq_eq_decide]
  · rw [if_neg here]
    simp [Function.comp_def, here]

theorem placements_at {set : BucketSet} {source : Column} {value : Value} (rows : List Nat)
    (told : ∀ row ∈ rows, Table.cells grouping row = point → source.cell row = value) (bucket : String) :
    (((rows.flatMap fun row => (set.bucketsOf (source.cell row)).map (row, ·)).filter fun (row, name) =>
        name = bucket ∧ Table.cells grouping row = point).map fun (row, _) => axis.cell row) =
      ((rows.filter fun row => Table.cells grouping row = point).map axis.cell).flatMap
        (List.replicate ((set.bucketsOf value).count bucket)) := by
  induction rows with
  | nil => rfl
  | cons row rest ih =>
    obtain ⟨here, later⟩ := List.forall_mem_cons.mp told
    rw [List.flatMap_cons, List.filter_append, List.map_append, placements_of_row here, ih later]
    by_cases at_point : Table.cells grouping row = point <;> simp [at_point]

/-- In a bucket elements are as often as it lists the rows. -/
theorem CollectsAt.withBuckets {source : Column} {value : Value}
    (collects : CollectsAt vectors grouping axis components point places times element) (set : BucketSet)
    (height : source.values.length = vectors.rowCount)
    (told : ∀ row ∈ vectors.rowIndices, Table.cells grouping row = point → source.cell row = value)
    (bucket : String) :
    CollectsAt (vectors.withBuckets set source)
      (Table.bucketColumn set source :: grouping.map (Table.placed set source))
      (Table.placed set source axis) (components.map (Table.placed set source)) (.str bucket :: point) places
      (times * (set.bucketsOf value).count bucket) element where
  places := by
    have rows_eq : ((vectors.withBuckets set source).rowIndices.map fun index =>
        (Table.cells (Table.bucketColumn set source :: grouping.map (Table.placed set source)) index,
          (Table.placed set source axis).cell index)) =
        (set.placements source).map fun (row, name) =>
          (.str name :: Table.cells grouping row, axis.cell row) := by
      rw [Table.rowIndices_withBuckets]
      refine List.ext_getElem (by simp) fun index here _ => ?_
      have inside : index < (set.placements source).length := by simpa using here
      rw [List.getElem_map, List.getElem_map, List.getElem_range]
      refine Prod.ext (Table.cells_withBuckets set source grouping inside) ?_
      exact (Column.cell_take (by simpa using inside) axis).trans (by rw [List.getElem_map])
    have chosen := congrArg (fun rows : List (List Value × Value) =>
      (rows.filter fun row => row.1 = .str bucket :: point).map Prod.snd) rows_eq
    simp only [List.filter_map, List.map_map, Function.comp_def] at chosen
    have at_point : ((set.placements source).filter fun row =>
        Value.str row.2 :: Table.cells grouping row.1 = .str bucket :: point) =
        (set.placements source).filter fun (row, name) =>
          name = bucket ∧ Table.cells grouping row = point := by
      refine List.filter_congr fun row _ => decide_eq_decide.mpr ?_
      rw [List.cons.injEq, Value.str.injEq]
    have indices : vectors.rowIndices = List.range source.values.length := congrArg List.range height.symm
    rw [chosen, at_point]
    rw [indices] at told
    refine (List.Perm.of_eq (placements_at _ told bucket)).trans ?_
    have perm := collects.places
    rw [indices] at perm
    refine (perm.flatMap_right _).trans (List.Perm.of_eq ?_)
    rw [List.flatMap_assoc]
    simp [List.flatMap_replicate]
  elements := by
    intro index inTable here
    rw [Table.rowIndices_withBuckets, List.mem_range] at inTable
    rw [Table.cells_withBuckets set source grouping inTable] at here
    have source_listed := lt_of_mem_placements (List.getElem_mem inTable)
    rw [vectorElement_placed inTable, collects.elements _ (List.mem_range.mpr (height ▸ source_listed))
      (List.cons.inj here).2]
    refine congrArg element ((Column.cell_take (by simpa using inTable) axis).trans ?_).symm
    rw [List.getElem_map]

end CubeQuery
