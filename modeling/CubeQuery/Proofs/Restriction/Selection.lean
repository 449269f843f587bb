import CubeQuery.Proofs.Execution.Buckets
import Mathlib.Data.List.Flatten
import Mathlib.Data.List.GetD

/-! Tables with some of the rows of another table. A point whose rows have all been kept is found at
the same row in both, and buckets are given to the rows that are kept as they are to all. -/

namespace CubeQuery

/-- A column with the cells of another at some rows. -/
def Column.PickedFrom (column : Column) (kept : List Nat) (other : Column) : Prop :=
  column.values = kept.map other.cell

namespace Table

/-- The points of the rows, one for each row. -/
def points (table : Table) : List (List Value) := table.rowIndices.map table.point

/-- A table with the rows of another that stand at some places there, in order. Measures that only one
of them has are not compared. -/
structure Selects (table whole : Table) (kept : List Nat) : Prop where
  sublist : kept.Sublist whole.rowIndices
  rowCount : table.rowCount = kept.length
  grouping : table.groupingColumns = whole.groupingColumns.map (Column.take kept)
  found : ∀ {name column other}, table.find? name = some column → whole.find? name = some other →
    column.PickedFrom kept other

/-- The place of a row among all rows. -/
def placeIn (kept : List Nat) (row : Nat) : Nat := kept.getD row 0

theorem map_placeIn (kept : List Nat) : (List.range kept.length).map (placeIn kept) = kept :=
  List.ext_getElem (by simp) fun row _ inside => by simp [placeIn, inside]

theorem map_range_eq {α : Type} {kept : List Nat} {read other : Nat → α}
    (same : ∀ row < kept.length, read row = other (placeIn kept row)) :
    (List.range kept.length).map read = kept.map other :=
  calc (List.range kept.length).map read
    _ = (List.range kept.length).map (other ∘ placeIn kept) :=
      List.map_congr_left fun row listed => same row (List.mem_range.mp listed)
    _ = ((List.range kept.length).map (placeIn kept)).map other := List.map_map.symm
    _ = kept.map other := by rw [map_placeIn]

theorem cell_of_picked {column other : Column} {kept : List Nat} (picked : column.PickedFrom kept other)
    {row : Nat} (inside : row < kept.length) : column.cell row = other.cell (placeIn kept row) := by
  unfold Column.PickedFrom at picked
  unfold Column.cell placeIn
  rw [picked]
  simp [inside, Column.cell]

theorem cells_of_picked {columns others : List Column} {kept : List Nat}
    (picked : List.Forall₂ (fun column other => column.PickedFrom kept other) columns others) {row : Nat}
    (inside : row < kept.length) : cells columns row = cells others (placeIn kept row) := by
  unfold cells
  induction picked with
  | nil => rfl
  | cons first _ ih => rw [List.map_cons, List.map_cons, ih, cell_of_picked first inside]

variable {table whole : Table} {kept : List Nat}

theorem points_extend (nonempty : table.columns ≠ []) {added : List Column}
    (measures : ∀ column ∈ added, column.header.isMeasure = true) :
    (table.extend added).points = table.points := by
  unfold points
  rw [rowIndices_extend nonempty]
  exact List.map_congr_left fun row _ => point_extend measures row

namespace Selects

theorem rowIndices_eq (selects : table.Selects whole kept) :
    table.rowIndices = List.range kept.length := by
  unfold rowIndices
  rw [selects.rowCount]

theorem groupingNames_eq (selects : table.Selects whole kept) :
    table.groupingNames = whole.groupingNames := by
  unfold groupingNames
  rw [selects.grouping, List.map_map]
  rfl

theorem point_eq (selects : table.Selects whole kept) {row : Nat} (inside : row < kept.length) :
    table.point row = whole.point (placeIn kept row) := by
  unfold point
  refine cells_of_picked ?_ inside
  rw [selects.grouping, List.forall₂_map_left_iff, List.forall₂_same]
  exact fun column _ => rfl

theorem points_eq (selects : table.Selects whole kept) : table.points = kept.map whole.point := by
  unfold points
  rw [selects.rowIndices_eq]
  exact map_range_eq fun row inside => selects.point_eq inside

theorem columnsNamed (selects : table.Selects whole kept) {names : List String}
    {columns others : List Column} (found : table.columnsNamed names = .ok columns)
    (otherFound : whole.columnsNamed names = .ok others) :
    List.Forall₂ (fun column other => column.PickedFrom kept other) columns others := by
  have each := columnsNamed_eq_ok.mp found
  have otherEach := columnsNamed_eq_ok.mp otherFound
  clear found otherFound
  induction each generalizing others with
  | nil =>
    cases otherEach
    exact .nil
  | cons first _ ih =>
    cases otherEach with
    | cons otherFirst rest => exact .cons (selects.found first otherFirst) (ih rest)

/-- Where all rows of a point are kept, its last row is the same one. -/
theorem lastRowAt?_eq (selects : table.Selects whole kept) {columns others : List Column}
    (picked : List.Forall₂ (fun column other => column.PickedFrom kept other) columns others)
    {point : List Value} (all : kept.filter (fun row => cells others row = point) =
      whole.rowIndices.filter fun row => cells others row = point) :
    (table.lastRowAt? columns point).map (placeIn kept) = whole.lastRowAt? others point := by
  have moved : ((List.range kept.length).filter fun row => cells columns row = point).map
      (placeIn kept) = kept.filter fun row => cells others row = point := by
    conv_rhs => rw [← map_placeIn kept, List.filter_map]
    refine congrArg _ (List.filter_congr fun row listed => ?_)
    simp only [Function.comp_apply, cells_of_picked picked (List.mem_range.mp listed)]
  unfold lastRowAt?
  rw [selects.rowIndices_eq, ← List.getLast?_filter, ← List.getLast?_filter, ← List.getLast?_map]
  exact congrArg List.getLast? (moved.trans all)

/-- A point of which no row is missing has kept all of its rows. -/
theorem filter_eq (selects : table.Selects whole kept) {point : List Value}
    (all : whole.points.count point ≤ table.points.count point) :
    kept.filter (fun row => whole.point row = point) =
      whole.rowIndices.filter fun row => whole.point row = point := by
  have rowsAt (rows : List Nat) : (rows.map whole.point).count point =
      (rows.filter fun row => whole.point row = point).length := by
    unfold List.count
    rw [List.countP_map, List.countP_eq_length_filter]
    exact congrArg List.length (List.filter_congr fun row _ => by simp [beq_eq_decide])
  refine (selects.sublist.filter _).eq_of_length_le ?_
  rw [← rowsAt, ← rowsAt, ← selects.points_eq]
  exact all

/-- A further measure, with its cells at the rows that are kept. -/
theorem extend (selects : table.Selects whole kept) (nonempty : table.columns ≠ []) {column : Column}
    (measure : column.header.isMeasure = true)
    (picked : ∀ other, whole.find? column.name = some other → column.PickedFrom kept other) :
    (table.extend [column]).Selects whole kept where
  sublist := selects.sublist
  rowCount := by rw [rowCount_extend nonempty, selects.rowCount]
  grouping := by rw [groupingColumns_extend (by simpa using measure), selects.grouping]
  found := by
    intro name found other extended otherFound
    cases old : table.find? name with
    | some before =>
      rw [find?_extend_old old] at extended
      obtain rfl := Option.some.inj extended
      exact selects.found old otherFound
    | none =>
      rw [find?_extend_new old] at extended
      obtain rfl := List.mem_singleton.mp (List.mem_of_find?_eq_some extended)
      refine picked other ?_
      rwa [show found.name = name by simpa using List.find?_some extended]

/-- Further measures of the whole table, which the other one does not have. -/
theorem behind (selects : table.Selects whole kept) (nonempty : whole.columns ≠ []) {added : List Column}
    (measures : ∀ column ∈ added, column.header.isMeasure = true)
    (apart : ∀ column ∈ added, column.name ∈ table.names → column.name ∈ whole.names) :
    table.Selects (whole.extend added) kept where
  sublist := by
    rw [rowIndices_extend nonempty]
    exact selects.sublist
  rowCount := selects.rowCount
  grouping := by rw [groupingColumns_extend measures, selects.grouping]
  found := by
    intro name column other found otherFound
    cases old : whole.find? name with
    | some before =>
      rw [find?_extend_old old] at otherFound
      obtain rfl := Option.some.inj otherFound
      exact selects.found found old
    | none =>
      rw [find?_extend_new old] at otherFound
      have named : other.name = name := by simpa using List.find?_some otherFound
      have known : other.name ∈ table.names := by
        rw [named, ← find?_isSome, found]
        rfl
      refine absurd (apart other (List.mem_of_find?_eq_some otherFound) known) ?_
      rw [named]
      exact find?_eq_none.mp old

end Selects

/-! ### All rows -/

/-- Two tables with the same rows. -/
theorem Selects.values_eq (selects : table.Selects whole whole.rowIndices) {name : String}
    {column other : Column} (found : table.find? name = some column)
    (otherFound : whole.find? name = some other) (length : other.values.length = whole.rowCount) :
    column.values = other.values := by
  have picked := selects.found found otherFound
  unfold Column.PickedFrom rowIndices at picked
  rw [picked, ← length]
  exact List.ext_getElem (by simp) fun row _ inside => by simp [Column.cell, inside]

theorem Selects.rowCount_eq (selects : table.Selects whole whole.rowIndices) :
    table.rowCount = whole.rowCount := by
  rw [selects.rowCount]
  exact List.length_range

/-! ### Buckets -/

/-- The buckets of a row. -/
def bucketPlaces (set : BucketSet) (source : Column) (row : Nat) : List (Nat × String) :=
  (set.bucketsOf (source.cell row)).map (row, ·)

theorem placements_eq (set : BucketSet) {source other : Column} (picked : source.PickedFrom kept other) :
    (set.placements source).map (fun place => (placeIn kept place.1, place.2)) =
      kept.flatMap (bucketPlaces set other) := by
  have length : source.values.length = kept.length := by
    rw [picked, List.length_map]
  unfold BucketSet.placements
  rw [length, List.map_flatMap]
  conv_rhs => rw [← map_placeIn kept, List.flatMap_map]
  refine List.flatMap_congr fun row listed => ?_
  rw [cell_of_picked picked (List.mem_range.mp listed), List.map_map]
  unfold bucketPlaces
  rfl

/-- The rows and buckets of the rows that are kept, among all of them. -/
theorem exists_places (sublist : kept.Sublist whole.rowIndices) (set : BucketSet) {source other : Column}
    (picked : source.PickedFrom kept other) (length : other.values.length = whole.rowCount) :
    ∃ places, places.Sublist (List.range (set.placements other).length) ∧
      (set.placements source).map (fun place => (placeIn kept place.1, place.2)) =
        places.map (fun place => (set.placements other).getD place (0, "")) ∧
      (kept = whole.rowIndices → places = List.range (set.placements other).length) := by
  have moved := placements_eq set picked
  have all : set.placements other = whole.rowIndices.flatMap (bucketPlaces set other) := by
    unfold BucketSet.placements rowIndices
    rw [length]
    rfl
  have whole_eq : ((List.range (set.placements other).length).map fun place =>
      (set.placements other).getD place (0, "")) = set.placements other :=
    List.ext_getElem (by simp) fun place _ below => by simp [below]
  have among : (kept.flatMap (bucketPlaces set other)).Sublist
      ((List.range (set.placements other).length).map fun place =>
        (set.placements other).getD place (0, "")) := by
    rw [whole_eq, all]
    exact List.Sublist.flatMap sublist _
  obtain ⟨places, places_sublist, places_eq⟩ := List.sublist_map_iff.mp among
  refine ⟨places, places_sublist, moved.trans places_eq, fun same => ?_⟩
  refine places_sublist.eq_of_length_le (Nat.le_of_eq ?_)
  rw [List.length_range, all, ← same, places_eq, List.length_map]

theorem fst_lt_of_mem_placements {set : BucketSet} {source : Column} {place : Nat × String}
    (listed : place ∈ set.placements source) : place.1 < source.values.length := by
  obtain ⟨row, member, bucket⟩ := List.mem_flatMap.mp listed
  obtain ⟨name, -, rfl⟩ := List.mem_map.mp bucket
  exact List.mem_range.mp member

/-- Buckets go to the rows that are kept as they go to all. -/
theorem Selects.withBuckets (selects : table.Selects whole kept) (set : BucketSet)
    {source other : Column} (picked : source.PickedFrom kept other)
    (length : other.values.length = whole.rowCount) :
    ∃ places, (table.withBuckets set source).Selects (whole.withBuckets set other) places ∧
      (kept = whole.rowIndices → places = (whole.withBuckets set other).rowIndices) := by
  obtain ⟨places, sublist, places_eq, every⟩ := exists_places selects.sublist set picked length
  have count : (set.placements source).length = places.length := by
    have moved := congrArg List.length places_eq
    rwa [List.length_map, List.length_map] at moved
  -- What is taken from a kept row is what is taken from the row in its place.
  have each (read : Nat × String → Value) :
      ((set.placements source).map fun place => read (placeIn kept place.1, place.2)) =
        places.map (Column.mk (.grouping "" .string) ((set.placements other).map read)).cell := by
    calc ((set.placements source).map fun place => read (placeIn kept place.1, place.2))
      _ = ((set.placements source).map fun place => (placeIn kept place.1, place.2)).map read :=
        List.map_map.symm
      _ = places.map fun place => read ((set.placements other).getD place (0, "")) := by
        rw [places_eq, List.map_map]
        rfl
      _ = places.map (Column.mk (.grouping "" .string) ((set.placements other).map read)).cell := by
        refine List.map_congr_left fun place listed => ?_
        have below := List.mem_range.mp (sublist.subset listed)
        simp [Column.cell, below]
  have taken {column wholeColumn : Column} (same : column.PickedFrom kept wholeColumn) :
      (column.take ((set.placements source).map (·.1))).PickedFrom places
        (wholeColumn.take ((set.placements other).map (·.1))) := by
    have cells := each fun place => wholeColumn.cell place.1
    unfold Column.PickedFrom Column.take
    rw [List.map_map, List.map_map]
    refine Eq.trans (List.map_congr_left fun place listed => ?_) cells
    have inside := fst_lt_of_mem_placements listed
    rw [picked, List.length_map] at inside
    exact cell_of_picked same inside
  refine ⟨places, ⟨?_, ?_, ?_, ?_⟩, ?_⟩
  · unfold rowIndices
    rwa [rowCount_withBuckets]
  · rw [rowCount_withBuckets, count]
  · have behind : (table.takeRows ((set.placements source).map (·.1))).groupingColumns =
        (whole.takeRows ((set.placements other).map (·.1))).groupingColumns.map (Column.take places) := by
      rw [groupingColumns_takeRows, groupingColumns_takeRows, selects.grouping, List.map_map,
        List.map_map]
      exact List.map_congr_left fun column _ => congrArg (Column.mk _) (taken rfl)
    exact congrArg₂ List.cons (congrArg (Column.mk _) (each fun place => .str place.2)) behind
  · intro name column wholeColumn found wholeFound
    rw [find?_withBuckets] at found wholeFound
    by_cases here : set.newColumn.name = name
    · rw [if_pos here] at found wholeFound
      obtain rfl := Option.some.inj found
      obtain rfl := Option.some.inj wholeFound
      exact each fun place => .str place.2
    · rw [if_neg here] at found wholeFound
      obtain ⟨before, beforeFound, rfl⟩ := Option.map_eq_some_iff.mp found
      obtain ⟨wholeBefore, wholeBeforeFound, rfl⟩ := Option.map_eq_some_iff.mp wholeFound
      exact taken (selects.found beforeFound wholeBeforeFound)
  · intro same
    unfold rowIndices
    rw [rowCount_withBuckets]
    exact every same

/-- The tables of a scope with its buckets. -/
theorem Selects.expandBuckets (selects : table.Selects whole kept)
    (lengths : ∀ column ∈ whole.columns, column.values.length = whole.rowCount) {scope other : Scope}
    (sameSet : other.bucketSet = scope.bucketSet) {expanded wholeExpanded : Table}
    (ran : table.expandBuckets scope = .ok expanded)
    (wholeRan : whole.expandBuckets other = .ok wholeExpanded) :
    ∃ places, expanded.Selects wholeExpanded places ∧
      (kept = whole.rowIndices → places = wholeExpanded.rowIndices) := by
  rcases expandBuckets_eq_ok.mp ran with ⟨none, rfl⟩ | ⟨set, source, buckets, found, -, rfl⟩
  · rcases expandBuckets_eq_ok.mp wholeRan with ⟨-, rfl⟩ | ⟨set, -, buckets, -⟩
    · exact ⟨kept, selects, fun same => same⟩
    · rw [sameSet, none] at buckets
      cases buckets
  · rcases expandBuckets_eq_ok.mp wholeRan with ⟨none, -⟩ | ⟨otherSet, otherSource, otherBuckets,
      otherFound, -, rfl⟩
    · rw [sameSet, buckets] at none
      cases none
    · rw [sameSet, buckets] at otherBuckets
      obtain rfl := Option.some.inj otherBuckets
      exact selects.withBuckets set (selects.found found otherFound) (lengths _ (mem_of_find? otherFound))

end Table

end CubeQuery
