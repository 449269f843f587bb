import CubeQuery.Proofs.Execution.Comparisons
import CubeQuery.Proofs.Execution.Vectors
import CubeQuery.Proofs.Memory.Placements
import CubeQuery.Proofs.Plan.ParentSets
import Mathlib.Data.List.Find

/-! Rows that are compared with their parents. A row is compared with the total of its finest ancestor that is
not a total itself. The row of that total is there if and only if the rollup along the ancestors has its
grouping set, and then it aggregates all rows of the group around that of the row. -/

namespace CubeQuery

open Steps

/-! ### Cells of found rows -/

namespace Table

variable {table : Table} {columns : List Column} {operand : Column} {point : List Value} {value : Value}

/-- In a bucket such a row is found if the bucket lists the value that the rows at the point have. -/
theorem map_cell_lastRowAt?_withBuckets {set : BucketSet} {source : Column} {member : Value}
    (height : source.values.length = table.rowCount)
    (told : ∀ row ∈ table.rowIndices, cells columns row = point → operand.cell row = value)
    (sourceTold : ∀ row ∈ table.rowIndices, cells columns row = point → source.cell row = member)
    (bucket : String) :
    ((table.withBuckets set source).lastRowAt? (bucketColumn set source :: columns.map (placed set source))
        (.str bucket :: point)).map (placed set source operand).cell =
      if point ∈ table.rowIndices.map (cells columns) ∧ bucket ∈ set.bucketsOf member
        then some value else none := by
  have placements {row : Nat} {name : String} :
      (row, name) ∈ set.placements source ↔ row ∈ table.rowIndices ∧ name ∈ set.bucketsOf (source.cell row) := by
    unfold BucketSet.placements rowIndices
    rw [height, List.mem_flatMap]
    simp only [List.mem_map, Prod.mk.injEq]
    constructor
    · rintro ⟨row, inRange, name, listed, rfl, rfl⟩
      exact ⟨inRange, listed⟩
    · rintro ⟨inRange, listed⟩
      exact ⟨row, inRange, name, listed, rfl, rfl⟩
  rw [@map_cell_lastRowAt? _ _ _ _ value]
  · refine if_congr ?_ rfl rfl
    rw [map_cells_withBuckets, List.mem_map, List.mem_map]
    constructor
    · rintro ⟨⟨row, name⟩, listed, same⟩
      obtain ⟨bucket_eq, here⟩ := List.cons.inj same
      obtain rfl := Value.str.inj bucket_eq
      obtain ⟨inTable, inBucket⟩ := placements.mp listed
      exact ⟨⟨row, inTable, here⟩, sourceTold row inTable here ▸ inBucket⟩
    · rintro ⟨⟨row, inTable, here⟩, inBucket⟩
      rw [← sourceTold row inTable here] at inBucket
      exact ⟨(row, bucket), placements.mpr ⟨inTable, inBucket⟩, congrArg (List.cons _) here⟩
  · intro index inTable here
    rw [rowIndices_withBuckets, List.mem_range] at inTable
    rw [cells_withBuckets set source columns inTable] at here
    have listed := List.getElem_mem inTable
    have cell_eq : (placed set source operand).cell index =
        operand.cell (set.placements source)[index].1 :=
      (Column.cell_take (by simpa using inTable) operand).trans (by rw [List.getElem_map])
    rw [cell_eq]
    exact told _ (placements.mp listed).1 (List.cons.inj here).2

end Table

/-! ### Shifted points -/

namespace Shifter

theorem parentPoint_eq (places : List Nat) (point : List Value) :
    parentPoint places point =
      (places.find? fun place => !(cell point place).isTotal).map fun level => point.set level .total := by
  unfold parentPoint
  cases places.find? fun place => !(cell point place).isTotal <;> rfl

theorem parentPoint_cons (places : List Nat) (front : Value) (point : List Value) :
    parentPoint (places.map (· + 1)) (front :: point) = (parentPoint places point).map (front :: ·) := by
  rw [parentPoint_eq, parentPoint_eq, List.find?_map, Option.map_map, Option.map_map]
  rfl

/-- Columns are found behind a new one as they are without it. -/
theorem ofAncestors_cons {ancestors : List Field} {first : String} (names : List String)
    (free : first ∉ ancestors.map Field.name) :
    (ancestors.filterMap fun ancestor => (first :: names).idxOf? ancestor.name) =
      (ancestors.filterMap fun ancestor => names.idxOf? ancestor.name).map (· + 1) := by
  rw [List.map_filterMap]
  refine List.filterMap_congr fun ancestor listed => ?_
  have other : first ≠ ancestor.name := fun same => free (same ▸ List.mem_map_of_mem listed)
  rw [List.idxOf?_cons, if_neg (by simpa using other)]

theorem idxOf?_names (fields : List TypedField) (name : String) :
    (fields.map TypedField.name).idxOf? name =
      (fields.find? fun field => field.name = name).map fields.idxOf := by
  induction fields with
  | nil => rfl
  | cons first rest ih =>
    rw [List.map_cons, List.idxOf?_cons, List.find?_cons, ih]
    by_cases here : first.name = name
    · simp [here]
    · rw [if_neg (by simpa using here), decide_eq_false here]
      dsimp only
      rw [Option.map_map]
      refine Option.map_congr fun found member => ?_
      have named : found.name = name := by simpa using List.find?_some member
      have other : first ≠ found := fun same => here (same ▸ named)
      rw [Function.comp_apply, List.idxOf_cons_ne _ other]

/-- The ancestors of a comparison are found at the levels of the statement. -/
theorem ofAncestors_levels (statement : Statement) (ancestors : List Field) :
    (ancestors.filterMap fun ancestor => (statement.select.map TypedField.name).idxOf? ancestor.name) =
      (statement.levels ancestors).map statement.select.idxOf := by
  unfold Statement.levels
  rw [List.map_filterMap]
  exact List.filterMap_congr fun ancestor _ => idxOf?_names statement.select ancestor.name

end Shifter

namespace MemoryDatabase

/-! ### Parents of groups -/

/-- The group around a group that has one column less. -/
def parentGroup (statement : Statement) (level : TypedField) (group : List TypedField × List Value) :
    List TypedField × List Value :=
  (Statement.dropColumn level group.1,
    List.zipWith (fun field cell => if field = level then .null else cell) statement.select group.2)

/-- The group that the rows of a group are compared with, if there is one. The total of a level is in none of
the buckets over this level. -/
def parentOf? (statement : Statement) (levels : List TypedField) (buckets : Option BucketSet)
    (group : List TypedField × List Value) : Option (List TypedField × List Value) :=
  match levels.find? fun level => level ∈ group.1 with
  | none => none
  | some level =>
    if statement.ParentRolled levels group.1 level ∧ ∀ set ∈ buckets, set.field.name ≠ level.name
    then some (parentGroup statement level group) else none

variable {statement : Statement} {levels set : List TypedField} {level : TypedField}
  {measures : List TypedMeasure} {rows : List Row} {row : Row} {group : List TypedField × List Value}

theorem parentOf?_of_none {buckets : Option BucketSet}
    (none : levels.find? (fun level => level ∈ group.1) = none) :
    parentOf? statement levels buckets group = .none := by
  unfold parentOf?
  rw [none]

theorem parentOf?_of_some {buckets : Option BucketSet}
    (first : levels.find? (fun level => level ∈ group.1) = some level) :
    parentOf? statement levels buckets group =
      if statement.ParentRolled levels group.1 level ∧ ∀ set ∈ buckets, set.field.name ≠ level.name
      then some (parentGroup statement level group) else none := by
  unfold parentOf?
  rw [first]

theorem parentGroup_groupKey (statement : Statement) (level : TypedField) (set : List TypedField) (row : Row) :
    parentGroup statement level (set, statement.groupKey set row) =
      (Statement.dropColumn level set, statement.groupKey (Statement.dropColumn level set) row) := by
  unfold parentGroup Statement.groupKey
  rw [List.zipWith_map_right, List.zipWith_self]
  refine congrArg _ (List.map_congr_left fun field _ => ?_)
  simp only [List.contains_eq_mem, decide_eq_true_eq, Statement.mem_dropColumn]
  by_cases here : field = level <;> simp [here]

theorem pointIn_dropColumn (distinct : statement.select.Nodup) :
    statement.pointIn (Statement.dropColumn level set) row =
      (statement.pointIn set row).set (statement.select.idxOf level) .total := by
  unfold Statement.pointIn
  refine List.ext_getElem (by simp) fun index inside _ => ?_
  rw [List.length_map] at inside
  rw [List.getElem_map, List.getElem_set, List.getElem_map]
  by_cases here : statement.select[index] = level
  · have place : statement.select.idxOf level = index := here ▸ distinct.idxOf_getElem index inside
    rw [if_pos place, if_neg fun listed => (Statement.mem_dropColumn.mp listed).2 here]
  · have other : statement.select.idxOf level ≠ index := by
      rintro rfl
      exact here (List.getElem_idxOf inside)
    rw [if_neg other]
    simp [Statement.mem_dropColumn, here]

theorem cell_pointIn (selected : level ∈ statement.select) :
    Shifter.cell (statement.pointIn set row) (statement.select.idxOf level) =
      if level ∈ set then row.read level else .total := by
  have inside := List.idxOf_lt_length_of_mem selected
  unfold Shifter.cell Statement.pointIn
  rw [List.getElem?_map, List.getElem?_eq_getElem inside, List.getElem_idxOf inside]
  rfl

section

variable {database : MemoryDatabase} (unlisted : statement.groupingSets = [])
  (selected : levels ⊆ statement.select)
  (totals : TotalsTell database (statement.rolledAlong levels measures) rows)

include unlisted in
theorem totalColumns_rolledAlong : (statement.rolledAlong levels measures).totalColumns =
    (statement.rolledAlong levels measures).rollup := by
  unfold Statement.totalColumns
  rw [show (statement.rolledAlong levels measures).groupingSets = [] from unlisted]
  rfl

include unlisted selected totals in
/-- A point is moved to the total of its finest level. -/
theorem parentPoint_pointIn (distinct : statement.select.Nodup) (source : row ∈ rows)
    (set : List TypedField) :
    Shifter.parentPoint (levels.map statement.select.idxOf) (statement.pointIn set row) =
      (levels.find? fun level => level ∈ set).map fun level =>
        statement.pointIn (Statement.dropColumn level set) row := by
  rw [Shifter.parentPoint_eq, List.find?_map, Option.map_map]
  have found : (levels.find? fun level =>
      !(Shifter.cell (statement.pointIn set row) (statement.select.idxOf level)).isTotal) =
        levels.find? fun level => level ∈ set := by
    refine List.find?_congr fun level leveled => ?_
    have rolled : level ∈ (statement.rolledAlong levels measures).totalColumns := by
      rw [totalColumns_rolledAlong unlisted]
      exact List.mem_append_right _ (List.mem_reverse.mpr leveled)
    have plain : row.read level ≠ .total := fun same => totals row source level rolled (.inl same)
    have untotalled : (row.read level).isTotal = false :=
      Bool.eq_false_iff.mpr fun total => plain (Value.isTotal_iff.mp total)
    rw [cell_pointIn (selected leveled)]
    by_cases listed : level ∈ set
    · simp [listed, untotalled]
    · have total : Value.total.isTotal = true := Value.isTotal_iff.mpr rfl
      simp [listed, total]
  refine (congrArg _ found).trans (Option.map_congr fun level _ => ?_)
  exact (pointIn_dropColumn distinct).symm

include unlisted totals in
theorem tellApart_dropColumn {other : List TypedField} {otherRow : Row}
    (otherListed : other ∈ (statement.rolledAlong levels measures).groupingSetList)
    (listed : set ∈ statement.groupingSetList) (leveled : level ∈ levels) (otherSource : otherRow ∈ rows)
    (source : row ∈ rows) :
    TellApart statement other otherRow (Statement.dropColumn level set) row := by
  refine tellApart_of_plain totals otherSource source fun field here plain => ?_
  have unrolled : field ∉ (statement.rolledAlong levels measures).rollup := by
    rwa [totalColumns_rolledAlong unlisted] at plain
  have besides : field ∉ levels := fun listed =>
    unrolled (List.mem_append_right _ (List.mem_reverse.mpr listed))
  have own : field ∉ statement.totalColumns := by
    unfold Statement.totalColumns
    rw [unlisted]
    exact fun listed => unrolled
      (List.mem_append_left _ (List.mem_filter.mpr ⟨listed, by simpa using besides⟩))
  refine ⟨Statement.mem_of_mem_groupingSetList otherListed here plain, Statement.mem_dropColumn.mpr
    ⟨Statement.mem_of_mem_groupingSetList listed here own, ?_⟩⟩
  rintro rfl
  exact besides leveled

variable {references : Table} (shows : Shows (statement.rolledAlong levels measures) rows references)

include unlisted selected totals shows in
/-- The parents have a row at the total of a level, if their rollup has the set without the level. -/
theorem mem_points_parents_iff (listed : set ∈ statement.groupingSetList) (leveled : level ∈ levels)
    (source : row ∈ rows) :
    statement.pointIn (Statement.dropColumn level set) row ∈ references.rowIndices.map references.point ↔
      statement.ParentRolled levels set level := by
  have selects : (statement.rolledAlong levels measures).select ≠ [] := List.ne_nil_of_mem (selected leveled)
  rw [shows.points, show shown (statement.rolledAlong levels measures) rows =
    groups (statement.rolledAlong levels measures) rows from rfl, mem_points_iff selects,
    ← Statement.exists_parent_iff unlisted selected measures listed leveled]
  refine exists_congr fun other => and_congr_right fun otherListed => ?_
  constructor
  · rintro ⟨otherRow, otherSource, same⟩
    exact ((pointIn_eq_iff (tellApart_dropColumn unlisted totals otherListed listed leveled otherSource
      source)).mp same).1
  · intro same
    refine ⟨row, source, ?_⟩
    exact (pointIn_eq_iff (tellApart_dropColumn unlisted totals otherListed listed leveled source
      source)).mpr ⟨same, by rw [same.groupKey_eq]⟩

include unlisted selected totals shows in
/-- That row aggregates the rows of the group without the level. -/
theorem measure_of_parents (listed : set ∈ statement.groupingSetList) (leveled : level ∈ levels)
    (source : row ∈ rows) (base : TypedMeasure) {index : Nat} (inTable : index ∈ references.rowIndices)
    (here : references.point index = statement.pointIn (Statement.dropColumn level set) row) :
    (measureColumn (statement.rolledAlong levels measures) rows base).cell index =
      valueOf statement rows base (parentGroup statement level (set, statement.groupKey set row)) := by
  have selects : (statement.rolledAlong levels measures).select ≠ [] := List.ne_nil_of_mem (selected leveled)
  have below : index < (shown (statement.rolledAlong levels measures) rows).length :=
    shows.rowCount_eq ▸ List.mem_range.mp inTable
  have point := shows.point_eq below
  have grouped := mem_groups_of_shown below
  rw [cell_measureColumn base below, parentGroup_groupKey]
  generalize (shown (statement.rolledAlong levels measures) rows)[index] = found at point grouped ⊢
  obtain ⟨other, key⟩ := found
  obtain ⟨otherListed, otherRow, otherSource,
    (rfl : key = (statement.rolledAlong levels measures).groupKey other otherRow)⟩ :=
      (mem_groups_iff selects).mp grouped
  rw [pointOf_groupKey] at point
  obtain ⟨sets, keys⟩ := (pointIn_eq_iff (tellApart_dropColumn unlisted totals otherListed listed leveled
    otherSource source)).mp (point.symm.trans here)
  have same : SameGroup statement (other, statement.groupKey other otherRow)
      (Statement.dropColumn level set, statement.groupKey (Statement.dropColumn level set) row) := ⟨sets, keys⟩
  exact same.valueOf_eq base

include unlisted selected totals shows in
theorem found_at_parent (listed : set ∈ statement.groupingSetList) (leveled : level ∈ levels)
    (source : row ∈ rows) (base : TypedMeasure) :
    (references.lastRowAt? references.groupingColumns
        (statement.pointIn (Statement.dropColumn level set) row)).map
          (measureColumn (statement.rolledAlong levels measures) rows base).cell =
      if statement.ParentRolled levels set level
        then some (valueOf statement rows base (parentGroup statement level (set, statement.groupKey set row)))
        else none := by
  rw [Table.map_cell_lastRowAt? fun index inTable here =>
    measure_of_parents unlisted selected totals shows listed leveled source base inTable here]
  exact if_congr (mem_points_parents_iff unlisted selected totals shows listed leveled source) rfl rfl

/-- The cell of a column at the total of a level. -/
theorem cell_dropColumn (distinct : (statement.select.map TypedField.name).Nodup)
    (leveled : level ∈ statement.select) {name : String}
    (grouped : name ∈ statement.select.map TypedField.name) :
    (statement.pointIn (Statement.dropColumn level set) row)[
        (statement.select.map TypedField.name).idxOf name]?.getD .null =
      if name = level.name then .total else cellOf statement (set, statement.groupKey set row) name := by
  have inside := List.idxOf_lt_length_of_mem grouped
  have named := List.getElem_idxOf inside
  rw [List.length_map] at inside
  rw [List.getElem_map] at named
  unfold cellOf
  rw [pointOf_groupKey, pointIn_dropColumn (List.Nodup.of_map _ distinct), List.getElem?_set]
  have place : statement.select.idxOf level = (statement.select.map TypedField.name).idxOf name ↔
      name = level.name := by
    constructor
    · intro same
      rw [← named]
      simp only [← same, List.getElem_idxOf]
    · intro same
      have found := List.inj_on_of_nodup_map distinct (List.getElem_mem inside) leveled (named.trans same)
      exact found ▸ (List.Nodup.of_map _ distinct).idxOf_getElem _ inside
  by_cases here : name = level.name
  · rw [if_pos (place.mpr here), if_pos here, if_pos]
    · rfl
    · simpa [Statement.pointIn] using List.idxOf_lt_length_of_mem leveled
  · rw [if_neg (mt place.mp here), if_neg here]

include unlisted selected totals shows in
/-- In a bucket the total of a level is found as it is without buckets, unless the buckets are over the
level. -/
theorem found_in_bucket (distinct : (statement.select.map TypedField.name).Nodup)
    (listed : set ∈ statement.groupingSetList) (leveled : level ∈ levels) (source : row ∈ rows)
    (base : TypedMeasure) {buckets : BucketSet} {sourceColumn : Column}
    (grouped : buckets.field.name ∈ statement.select.map TypedField.name)
    (found : references.find? buckets.field.name = some sourceColumn)
    (totalFree : buckets.bucketsOf .total = []) {bucket : String}
    (inBucket : bucket ∈ buckets.bucketsOf
      (cellOf statement (set, statement.groupKey set row) buckets.field.name)) :
    ((references.withBuckets buckets sourceColumn).lastRowAt?
        (Table.bucketColumn buckets sourceColumn ::
          references.groupingColumns.map (Table.placed buckets sourceColumn))
        (.str bucket :: statement.pointIn (Statement.dropColumn level set) row)).map
          (Table.placed buckets sourceColumn
            (measureColumn (statement.rolledAlong levels measures) rows base)).cell =
      if statement.ParentRolled levels set level ∧ buckets.field.name ≠ level.name
        then some (valueOf statement rows base (parentGroup statement level (set, statement.groupKey set row)))
        else none := by
  have height := shows.formed.lengths sourceColumn (Table.mem_of_find? found)
  have sourceTold (index : Nat) (here : references.point index =
      statement.pointIn (Statement.dropColumn level set) row) : sourceColumn.cell index =
        if buckets.field.name = level.name then .total
        else cellOf statement (set, statement.groupKey set row) buckets.field.name := by
    rw [← cell_dropColumn distinct (selected leveled) grouped, ← here]
    exact shows.cell_eq grouped found index
  rw [Table.map_cell_lastRowAt?_withBuckets height (fun index inTable here =>
    measure_of_parents unlisted selected totals shows listed leveled source base inTable here)
      fun index _ here => sourceTold index here]
  refine if_congr (and_congr (mem_points_parents_iff unlisted selected totals shows listed leveled source) ?_)
    rfl rfl
  by_cases here : buckets.field.name = level.name
  · rw [if_pos here, totalFree]
    exact iff_of_false List.not_mem_nil fun other => other here
  · rw [if_neg here]
    exact iff_of_true inBucket here

include unlisted selected totals in
/-- What is found for a group is told by what is found at the totals of its levels. -/
theorem bind_parentPoint (distinct : statement.select.Nodup) (inRows : group ∈ groups statement rows)
    {base : TypedMeasure} {buckets : Option BucketSet} {lookup : List Value → Option Value}
    (found : ∀ set ∈ statement.groupingSetList, ∀ row ∈ rows, group = (set, statement.groupKey set row) →
      ∀ level ∈ levels, lookup (statement.pointIn (Statement.dropColumn level set) row) =
        if statement.ParentRolled levels set level ∧ ∀ set ∈ buckets, set.field.name ≠ level.name
        then some (valueOf statement rows base (parentGroup statement level group)) else none) :
    (Shifter.parentPoint (levels.map statement.select.idxOf) (pointOf statement group)).bind lookup =
      (parentOf? statement levels buckets group).map (valueOf statement rows base) := by
  by_cases bare : levels = []
  · subst bare
    rfl
  obtain ⟨first, firstListed⟩ := List.exists_mem_of_ne_nil _ bare
  obtain ⟨set, key⟩ := group
  obtain ⟨listed, row, source, (rfl : key = statement.groupKey set row)⟩ :=
    (mem_groups_iff (List.ne_nil_of_mem (selected firstListed))).mp inRows
  rw [pointOf_groupKey, parentPoint_pointIn unlisted selected totals distinct source]
  cases finest : levels.find? fun level => level ∈ set with
  | none =>
    rw [parentOf?_of_none finest]
    rfl
  | some level =>
    rw [parentOf?_of_some finest, Option.map_some, Option.bind_some,
      found set listed row source rfl level (List.mem_of_find?_eq_some finest), apply_ite (Option.map _)]
    rfl

end

/-! ### Rows and their parents -/

section

variable {database : MemoryDatabase} {ancestors : List Field} {current references : Table}
  (unlisted : statement.groupingSets = [])
  (totals : TotalsTell database (statement.rolledAlong (statement.levels ancestors) measures) rows)
  (shows : Shows statement rows current)
  (parentShows : Shows (statement.rolledAlong (statement.levels ancestors) measures) rows references)

include shows in
theorem Shows.names_nodup : (statement.select.map TypedField.name).Nodup :=
  shows.groupingNames ▸ shows.formed.distinct.sublist (List.filter_sublist.map _)

include shows parentShows in
theorem columnsNamed_parents :
    references.columnsNamed current.groupingNames = .ok references.groupingColumns := by
  rw [shows.groupingNames]
  exact parentShows.groupingNames ▸ parentShows.formed.columnsNamed_eq List.filter_sublist.subset

include unlisted totals shows parentShows

/-- Every row is compared with the row of its parent, if there is one. -/
theorem foundCells_eq (base : TypedMeasure) :
    (Shifter.ofAncestors ancestors current.groupingNames).foundCells current references
        references.groupingColumns
        (measureColumn (statement.rolledAlong (statement.levels ancestors) measures) rows base) =
      (shown statement rows).map fun group =>
        (parentOf? statement (statement.levels ancestors) none group).map (valueOf statement rows base) := by
  rw [Shifter.foundCells_eq_map, shows.points, shows.groupingNames, List.map_map]
  unfold Shifter.ofAncestors
  rw [Shifter.ofAncestors_levels]
  refine List.map_congr_left fun group listed => ?_
  rw [Function.comp_apply, Option.map_bind]
  refine bind_parentPoint unlisted Statement.levels_subset totals (List.Nodup.of_map _ shows.names_nodup)
    ((limited_sublist _ _).subset listed) fun set member row source same level leveled => ?_
  rw [same]
  exact (found_at_parent unlisted Statement.levels_subset totals parentShows member leveled source base).trans
    (if_congr (and_iff_left nofun).symm rfl rfl)

/-- So is every row of a bucket, unless the parent is the total of the column that the buckets are over. -/
theorem foundCells_withBuckets (base : TypedMeasure) {buckets : BucketSet} {source parentSource : Column}
    (grouped : buckets.field.name ∈ statement.select.map TypedField.name)
    (found : current.find? buckets.field.name = some source)
    (parentFound : references.find? buckets.field.name = some parentSource)
    (free : buckets.newColumn.name ∉ ancestors.map Field.name)
    (totalFree : buckets.bucketsOf .total = []) :
    (Shifter.ofAncestors ancestors (current.withBuckets buckets source).groupingNames).foundCells
        (current.withBuckets buckets source) (references.withBuckets buckets parentSource)
        (Table.bucketColumn buckets parentSource ::
          references.groupingColumns.map (Table.placed buckets parentSource))
        (Table.placed buckets parentSource
          (measureColumn (statement.rolledAlong (statement.levels ancestors) measures) rows base)) =
      (placedGroups (some buckets) statement rows).map fun (group, _) =>
        (parentOf? statement (statement.levels ancestors) (some buckets) group).map
          (valueOf statement rows base) := by
  have places : Shifter.ofAncestors ancestors (current.withBuckets buckets source).groupingNames =
      .parent (((statement.levels ancestors).map statement.select.idxOf).map (· + 1)) := by
    unfold Shifter.ofAncestors
    rw [Table.groupingNames_withBuckets, shows.groupingNames, Shifter.ofAncestors_cons _ free,
      Shifter.ofAncestors_levels]
  rw [places, Shifter.foundCells_eq_map, shows.points_withBuckets grouped found, List.map_flatMap]
  unfold placedGroups
  rw [List.map_flatMap]
  refine List.flatMap_congr fun group listed => ?_
  refine List.map_map.trans (Eq.trans ?_ List.map_map.symm)
  refine List.map_congr_left fun bucket inBucket => ?_
  dsimp only [Function.comp_apply, Shifter.shift]
  rw [Shifter.parentPoint_cons, Option.bind_map, Option.map_bind]
  refine bind_parentPoint unlisted Statement.levels_subset totals (List.Nodup.of_map _ shows.names_nodup)
    ((limited_sublist _ _).subset listed) fun set member row inRows same level leveled => ?_
  subst same
  exact (found_in_bucket unlisted Statement.levels_subset totals parentShows shows.names_nodup member leveled
    inRows base grouped parentFound totalFree inBucket).trans (if_congr (by simp) rfl rfl)

/-- The rows of a scope are compared with those of their parents, with the buckets that the scope has. -/
theorem foundCells_expanded {scope reference : Scope} (sameBuckets : reference.bucketSet = scope.bucketSet)
    (placeable : ∀ buckets, scope.bucketSet = some buckets →
      buckets.field.name ∈ statement.select.map TypedField.name ∧
        buckets.newColumn.name ∉ ancestors.map Field.name ∧ buckets.bucketsOf .total = [])
    {placed placedReferences : Table} (ran : current.expandBuckets scope = .ok placed)
    (parentsRan : references.expandBuckets reference = .ok placedReferences) :
    ∃ grouping, placedReferences.columnsNamed placed.groupingNames = .ok grouping ∧
      ∀ base ∈ measures, ∃ operand, placedReferences.find? base.label = some operand ∧
        (Shifter.ofAncestors ancestors placed.groupingNames).foundCells placed placedReferences grouping operand =
          (placedGroups scope.bucketSet statement rows).map fun (group, _) =>
            (parentOf? statement (statement.levels ancestors) scope.bucketSet group).map
              (valueOf statement rows base) := by
  have named := columnsNamed_parents shows parentShows
  rcases Table.expandBuckets_eq_ok.mp ran with ⟨none, rfl⟩ | ⟨buckets, source, here, found, free, rfl⟩
  · rcases Table.expandBuckets_eq_ok.mp parentsRan with ⟨-, rfl⟩ | ⟨buckets, _, here, -, -, -⟩
    · refine ⟨_, named, fun base asked => ⟨_, parentShows.measured base asked, ?_⟩⟩
      rw [foundCells_eq unlisted totals shows parentShows, none]
      unfold placedGroups
      rw [List.map_map]
      rfl
    · rw [sameBuckets, none] at here
      cases here
  · rcases Table.expandBuckets_eq_ok.mp parentsRan with
      ⟨none, -⟩ | ⟨other, parentSource, otherHere, parentFound, parentFree, rfl⟩
    · rw [sameBuckets, here] at none
      cases none
    · obtain rfl : buckets = other := Option.some.inj (here.symm.trans (sameBuckets ▸ otherHere))
      obtain ⟨grouped, besides, totalFree⟩ := placeable buckets here
      have placedNamed : (references.withBuckets buckets parentSource).columnsNamed
          (current.withBuckets buckets source).groupingNames = .ok (Table.bucketColumn buckets parentSource ::
            references.groupingColumns.map (Table.placed buckets parentSource)) := by
        rw [Table.groupingNames_withBuckets]
        exact Table.columnsNamed_withBuckets named parentFree
      refine ⟨_, placedNamed, fun base asked =>
        ⟨_, Table.find?_placed (parentShows.measured base asked) parentFree, ?_⟩⟩
      rw [here]
      exact foundCells_withBuckets unlisted totals shows parentShows base grouped found parentFound besides
        totalFree

end

end MemoryDatabase

namespace Scope

/-- The grouping sets of the parents have that of a row without its finest level in two cases only: the columns
that the row drops are, with the level, the finest levels, as where no other columns are rolled up, or the row
has no other level. Then, and only then, the row is compared with a row, unless the level is put into buckets,
and that row has what all rows of the group around aggregate. -/
theorem parent_rows_found {datastore : Datastore} {scope reference : Scope} {measures operands : List Measure}
    {statement parents : Statement} {ancestors : List Field} {label : String} {columnSet : Option ColumnSetKey}
    (lowered : scope.lower datastore measures = .ok statement)
    (planned : scope.forComparison label none columnSet (some ancestors) = .ok reference)
    (parentsLowered : reference.lower datastore operands = .ok parents) (checked : statement.check = .ok ())
    (named : scope.subQuery = none ∨ statement.KeepsNames scope)
    (told : ∀ field ∈ statement.select, ∀ other ∈ statement.select, field.name = other.name → field = other) :
    (∀ set ∈ statement.groupingSetList, ∀ level,
      (statement.levels ancestors).find? (fun level => level ∈ set) = some level →
        (set.toFinset.erase level ∈ parents.groupingSetList.map List.toFinset ↔
          statement.ParentRolled (statement.levels ancestors) set level) ∧
        ((statement.levels ancestors).Nodup → statement.rollup.reverse <+: statement.levels ancestors →
          statement.ParentRolled (statement.levels ancestors) set level) ∧
        ((∃ field ∈ statement.select, field ∉ set ∧ field ∉ statement.levels ancestors) →
          (statement.ParentRolled (statement.levels ancestors) set level ↔
            ∀ other ∈ statement.levels ancestors, other ∉ set ∨ other = level))) ∧
    ∀ {dialect : Dialect} {tables : List (String × List Row)} {rows : List Row} {number other : Nat}
      {raw rawParents current references : Table},
      Engine.Tells dialect tables statement rows → Engine.Tells dialect tables parents rows →
      (Engine.ofRows dialect datastore tables).receive number statement = .ok raw →
      (Engine.ofRows dialect datastore tables).receive other parents = .ok rawParents →
      (∀ buckets, scope.bucketSet = some buckets → scope.hasColumn buckets.field = true ∧
        buckets.newColumn.name ∉ ancestors.map Field.name ∧ buckets.bucketsOf .total = []) →
      raw.expandBuckets scope = .ok current → rawParents.expandBuckets reference = .ok references →
      ∃ grouping, references.columnsNamed current.groupingNames = .ok grouping ∧
        ∀ base ∈ parents.measures, ∃ operand, references.find? base.label = some operand ∧
          (Shifter.ofAncestors ancestors current.groupingNames).foundCells current references grouping operand =
            (MemoryDatabase.placedGroups scope.bucketSet statement rows).map fun (group, _) =>
              (MemoryDatabase.parentOf? statement (statement.levels ancestors) scope.bucketSet group).map
                (MemoryDatabase.valueOf statement rows base) := by
  have keeps : statement.KeepsNames scope := named.elim (keepsNames_of_tables lowered) id
  obtain ⟨unlistedScope, rfl⟩ : scope.groupingSets = [] ∧ scope.forParents ancestors = reference := by
    unfold forComparison at planned
    dsimp only at planned
    split at planned
    next none => exact ⟨List.isEmpty_iff.mp none, Except.ok.inj planned⟩
    next => cases planned
  have unlisted := groupingSets_of_lower lowered unlistedScope
  have parents_eq := lower_forParents lowered parentsLowered checked keeps told
  generalize parents.measures = typed at parents_eq
  subst parents_eq
  refine ⟨fun set listed level first => ⟨?_, fun distinct hierarchy => ?_, ?_⟩, ?_⟩
  · exact Statement.erase_mem_sets_iff unlisted checked Statement.levels_subset listed
      (List.mem_of_find?_eq_some first)
  · exact Statement.parentRolled_of_hierarchy unlisted Statement.levels_subset distinct hierarchy listed first
  · rintro ⟨field, selected, dropped, besides⟩
    exact Statement.parentRolled_iff_of_dropped selected dropped besides
  · intro dialect tables rows number other raw rawParents current references tells parentTells received
      parentsReceived placeable ran parentsRan
    have shows := Engine.shows_of_receive checked tells received
    have parentShows := Engine.shows_of_receive
      (Statement.check_rolledAlong unlisted checked Statement.levels_subset) parentTells parentsReceived
    refine MemoryDatabase.foundCells_expanded unlisted parentTells.totals shows parentShows rfl
      (fun buckets here => ?_) ran parentsRan
    obtain ⟨has, besides, totalFree⟩ := placeable buckets here
    obtain ⟨column, listed, same⟩ := List.any_eq_true.mp has
    refine ⟨?_, besides, totalFree⟩
    rw [keeps.select, ← of_decide_eq_true same]
    exact List.mem_map_of_mem listed

end Scope

/-! ### What was sold in the cities -/

def countryField : TypedField := .column none "country" .string none

def cityField : TypedField := .column none "city" .string none

/-- The cities of each scenario, and of all scenarios. -/
def citiesScope : Scope where
  table := some ⟨"sales", []⟩
  subQuery := none
  columns := [.ofName "scenario", .ofName "country", .ofName "city"]
  rollup := [.ofName "scenario"]
  groupingSets := []
  bucketSet := none
  whereCriteria := none
  havingCriteria := none
  limit := none
  virtualTables := []

/-- The finest ancestor first. -/
def cityAncestors : List Field := [.ofName "city", .ofName "country"]

def citiesStatement : Statement where
  table := some (.ofName "sales")
  subQuery := none
  virtualTables := []
  select := [scenarioField, countryField, cityField]
  rollup := [scenarioField]
  groupingSets := []
  measures := [soldTyped]
  whereCriteria := none
  havingCriteria := none
  limit := none

def citiesRows : List Row :=
  [[("scenario", .str "base"), ("country", .str "france"), ("city", .str "lyon"), ("quantity", .int 4)],
    [("scenario", .str "base"), ("country", .str "france"), ("city", .str "paris"), ("quantity", .int 3)]]

theorem citiesScope_lowered : citiesScope.lower Sales.datastore [soldMeasure] = .ok citiesStatement := by
  rfl

theorem citiesScope_parents : (citiesScope.forParents cityAncestors).lower Sales.datastore [soldMeasure] =
    .ok (citiesStatement.rolledAlong [cityField, countryField] [soldTyped]) := by
  rfl

theorem citiesStatement_groups : MemoryDatabase.groups citiesStatement citiesRows =
    [([countryField, cityField, scenarioField], [.str "base", .str "france", .str "lyon"]),
      ([countryField, cityField, scenarioField], [.str "base", .str "france", .str "paris"]),
      ([countryField, cityField], [.null, .str "france", .str "lyon"]),
      ([countryField, cityField], [.null, .str "france", .str "paris"])] := by
  have inScenarios : citiesStatement.groupKeys [countryField, cityField, scenarioField] citiesRows =
      [[.str "base", .str "france", .str "lyon"], [.str "base", .str "france", .str "paris"]] :=
    MemoryDatabase.groupKeys_of_sorted rfl (by decide) (by decide +kernel)
  have inAll : citiesStatement.groupKeys [countryField, cityField] citiesRows =
      [[.null, .str "france", .str "lyon"], [.null, .str "france", .str "paris"]] :=
    MemoryDatabase.groupKeys_of_sorted rfl (by decide) (by decide +kernel)
  have sets : citiesStatement.groupingSetList =
      [[countryField, cityField, scenarioField], [countryField, cityField]] := by decide
  unfold MemoryDatabase.groups
  rw [sets, List.flatMap_cons, List.flatMap_singleton, inScenarios, inAll]
  rfl

theorem citiesParents_groups :
    MemoryDatabase.groups (citiesStatement.rolledAlong [cityField, countryField] [soldTyped]) citiesRows =
      [([scenarioField, countryField, cityField], [.str "base", .str "france", .str "lyon"]),
        ([scenarioField, countryField, cityField], [.str "base", .str "france", .str "paris"]),
        ([scenarioField, countryField], [.str "base", .str "france", .null]),
        ([scenarioField], [.str "base", .null, .null]), ([], [.null, .null, .null])] := by
  have keys {set : List TypedField} {keys : List (List Value)}
      (unsorted : (citiesRows.map ((citiesStatement.rolledAlong [cityField, countryField]
        [soldTyped]).groupKey set)).eraseDups = keys)
      (sorted : keys.Pairwise fun a b => (Value.compareItems a b != .gt) = true) :
      (citiesStatement.rolledAlong [cityField, countryField] [soldTyped]).groupKeys set citiesRows = keys :=
    MemoryDatabase.groupKeys_of_sorted rfl unsorted sorted
  have sets : (citiesStatement.rolledAlong [cityField, countryField] [soldTyped]).groupingSetList =
      [[scenarioField, countryField, cityField], [scenarioField, countryField], [scenarioField], []] := by
    decide
  have cities := @keys [scenarioField, countryField, cityField]
    [[.str "base", .str "france", .str "lyon"], [.str "base", .str "france", .str "paris"]]
    (by decide) (by decide +kernel)
  have countries := @keys [scenarioField, countryField] [[.str "base", .str "france", .null]]
    (by decide) (by decide +kernel)
  have scenarios := @keys [scenarioField] [[.str "base", .null, .null]] (by decide) (by decide +kernel)
  have all := @keys [] [[.null, .null, .null]] (by decide) (by decide +kernel)
  unfold MemoryDatabase.groups
  rw [sets, List.flatMap_cons, List.flatMap_cons, List.flatMap_cons, List.flatMap_singleton, cities,
    countries, scenarios, all]
  rfl

theorem citiesStatement_received (number : Nat) :
    (Engine.ofRows .generic Sales.datastore [("sales", citiesRows)]).receive number citiesStatement =
      .ok ⟨[⟨.grouping "scenario" .string, [.str "base", .str "base", .total, .total]⟩,
        ⟨.grouping "country" .string, [.str "france", .str "france", .str "france", .str "france"]⟩,
        ⟨.grouping "city" .string, [.str "lyon", .str "paris", .str "lyon", .str "paris"]⟩,
        ⟨.measure "sold" .long, [.int 4, .int 3, .int 4, .int 3]⟩]⟩ := by
  have answered : (Engine.ofRows .generic Sales.datastore [("sales", citiesRows)]).answer number
      citiesStatement =
        .ok ⟨[⟨.grouping "scenario" .string, [.str "base", .str "base", .null, .null]⟩,
          ⟨.grouping "country" .string, [.str "france", .str "france", .str "france", .str "france"]⟩,
          ⟨.grouping "city" .string, [.str "lyon", .str "paris", .str "lyon", .str "paris"]⟩,
          ⟨.measure "sold" .long, [.int 4, .int 3, .int 4, .int 3]⟩]⟩ := by
    refine Engine.ofRows_answer citiesRows rfl rfl (fun group listed measure asked => ?_) ?_ rfl number
    · obtain rfl := List.mem_singleton.mp asked
      rw [citiesStatement_groups] at listed
      simp only [List.mem_cons, List.not_mem_nil, or_false] at listed
      rcases listed with rfl | rfl | rfl | rfl <;> exact ⟨_, rfl⟩
    · unfold MemoryDatabase.frontColumns MemoryDatabase.measureColumn
      rw [citiesStatement_groups]
      rfl
  unfold Engine.receive
  rw [answered]
  rfl

theorem citiesParents_received (number : Nat) :
    (Engine.ofRows .generic Sales.datastore [("sales", citiesRows)]).receive number
        (citiesStatement.rolledAlong [cityField, countryField] [soldTyped]) =
      .ok ⟨[⟨.grouping "scenario" .string, [.str "base", .str "base", .str "base", .str "base", .total]⟩,
        ⟨.grouping "country" .string, [.str "france", .str "france", .str "france", .total, .total]⟩,
        ⟨.grouping "city" .string, [.str "lyon", .str "paris", .total, .total, .total]⟩,
        ⟨.measure "sold" .long, [.int 4, .int 3, .int 7, .int 7, .int 7]⟩]⟩ := by
  have answered : (Engine.ofRows .generic Sales.datastore [("sales", citiesRows)]).answer number
      (citiesStatement.rolledAlong [cityField, countryField] [soldTyped]) =
        .ok ⟨[⟨.grouping "scenario" .string, [.str "base", .str "base", .str "base", .str "base", .null]⟩,
          ⟨.grouping "country" .string, [.str "france", .str "france", .str "france", .null, .null]⟩,
          ⟨.grouping "city" .string, [.str "lyon", .str "paris", .null, .null, .null]⟩,
          ⟨.measure "sold" .long, [.int 4, .int 3, .int 7, .int 7, .int 7]⟩]⟩ := by
    refine Engine.ofRows_answer citiesRows rfl rfl (fun group listed measure asked => ?_) ?_ rfl number
    · obtain rfl := List.mem_singleton.mp asked
      rw [citiesParents_groups] at listed
      simp only [List.mem_cons, List.not_mem_nil, or_false] at listed
      rcases listed with rfl | rfl | rfl | rfl | rfl <;> exact ⟨_, rfl⟩
    · unfold MemoryDatabase.frontColumns MemoryDatabase.measureColumn
      rw [show (citiesStatement.rolledAlong [cityField, countryField] [soldTyped]).limit = none from rfl,
        citiesParents_groups]
      rfl
  unfold Engine.receive
  rw [answered]
  rfl

/-- A city of a scenario is compared with its country. Over all scenarios it is not, as the parents have the
countries in each scenario only. -/
theorem Scope.cities_compared : ∃ current references grouping operand,
    (Engine.ofRows .generic Sales.datastore [("sales", citiesRows)]).receive 0 citiesStatement = .ok current ∧
      (Engine.ofRows .generic Sales.datastore [("sales", citiesRows)]).receive 1
        (citiesStatement.rolledAlong [cityField, countryField] [soldTyped]) = .ok references ∧
      references.columnsNamed current.groupingNames = .ok grouping ∧ references.find? "sold" = some operand ∧
      (Shifter.ofAncestors cityAncestors current.groupingNames).foundCells current references grouping operand =
        [some (.int 7), some (.int 7), none, none] := by
  have planned : citiesScope.forComparison "share" none none (some cityAncestors) =
      .ok (citiesScope.forParents cityAncestors) := rfl
  obtain ⟨-, compared⟩ := parent_rows_found citiesScope_lowered planned citiesScope_parents rfl (.inl rfl)
    (by decide)
  have tells {statement : Statement} (asked : statement.measures ≠ [])
      (selected : (MemoryDatabase.ofRows .generic [("sales", citiesRows)]).selectedRows statement =
        .ok citiesRows)
      (totals : (MemoryDatabase.ofRows .generic [("sales", citiesRows)]).TotalsTell statement citiesRows) :
      Engine.Tells .generic [("sales", citiesRows)] statement citiesRows :=
    ⟨nofun, nofun, asked, selected, totals⟩
  have plain : (MemoryDatabase.ofRows .generic [("sales", citiesRows)]).TotalsTell citiesStatement
      citiesRows := by
    unfold MemoryDatabase.TotalsTell MemoryDatabase.ReadsAsTotal
    decide
  have parentsPlain : (MemoryDatabase.ofRows .generic [("sales", citiesRows)]).TotalsTell
      (citiesStatement.rolledAlong [cityField, countryField] [soldTyped]) citiesRows := by
    unfold MemoryDatabase.TotalsTell MemoryDatabase.ReadsAsTotal
    decide
  obtain ⟨grouping, columns, found⟩ := compared (tells (List.cons_ne_nil _ _) rfl plain)
    (tells (List.cons_ne_nil _ _) rfl parentsPlain) (citiesStatement_received 0) (citiesParents_received 1)
    nofun rfl rfl
  obtain ⟨operand, measured, cells⟩ := found soldTyped (List.mem_singleton_self _)
  refine ⟨_, _, grouping, operand, citiesStatement_received 0, citiesParents_received 1, columns, measured,
    cells.trans ?_⟩
  have shown : MemoryDatabase.shown citiesStatement citiesRows =
      [([countryField, cityField, scenarioField], [.str "base", .str "france", .str "lyon"]),
        ([countryField, cityField, scenarioField], [.str "base", .str "france", .str "paris"]),
        ([countryField, cityField], [.null, .str "france", .str "lyon"]),
        ([countryField, cityField], [.null, .str "france", .str "paris"])] :=
    citiesStatement_groups
  unfold MemoryDatabase.placedGroups
  rw [show citiesScope.bucketSet = none from rfl, shown]
  rfl

end CubeQuery
