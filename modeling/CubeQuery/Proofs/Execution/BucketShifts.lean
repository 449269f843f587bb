import CubeQuery.Proofs.Execution.Vectors
import CubeQuery.Proofs.Table.Operations

/-! Rows in buckets, and moves along buckets. A table is expanded to one row for each of its rows and each bucket
that lists the value of the row. A move from such a row leads to a value under the name of a bucket that lists it,
so it leads to what the expansion of a row with that value has. -/

namespace CubeQuery

open Steps

/-! ### Expanded rows -/

namespace BucketSet

/-- A bucket with the name lists the value. Other buckets may have the name too. -/
def Lists (set : BucketSet) (name : String) (value : Value) : Prop :=
  ∃ bucket ∈ set.buckets, bucket.name = name ∧ value ∈ bucket.members

end BucketSet

namespace Table

variable {table expanded : Table} {set : BucketSet} {source : Column} {scope : Scope}

/-- The rows of a table, each once for every bucket that lists its value, with the bucket in front. -/
def bucketedRows (table : Table) (set : BucketSet) (source : Column) : List (List Value) :=
  table.rowIndices.flatMap fun row =>
    (set.buckets.filter fun bucket => source.cell row ∈ bucket.members).map fun bucket =>
      .str bucket.name :: table.row row

theorem mem_bucketedRows_iff {cells : List Value} : cells ∈ table.bucketedRows set source ↔
    ∃ row ∈ table.rowIndices, ∃ name, set.Lists name (source.cell row) ∧ cells = .str name :: table.row row := by
  unfold bucketedRows BucketSet.Lists
  simp only [List.mem_flatMap, List.mem_map, List.mem_filter, decide_eq_true_eq]
  constructor
  · rintro ⟨row, listed, bucket, ⟨inSet, member⟩, rfl⟩
    exact ⟨row, listed, bucket.name, ⟨bucket, inSet, rfl, member⟩, rfl⟩
  · rintro ⟨row, listed, name, ⟨bucket, inSet, rfl, member⟩, rfl⟩
    exact ⟨row, listed, bucket, ⟨inSet, member⟩, rfl⟩

theorem rows_withBuckets (even : table.Even) (found : table.find? set.field.name = some source) :
    (table.withBuckets set source).rows = table.bucketedRows set source := by
  have height : source.values.length = table.rowCount := even source (mem_of_find? found)
  calc (table.withBuckets set source).rows
    _ = (set.placements source).map fun placed => .str placed.2 :: table.row placed.1 :=
      map_cells_withBuckets table set source table.columns
    _ = table.rowIndices.flatMap fun row =>
          (set.bucketsOf (source.cell row)).map fun bucket => .str bucket :: table.row row := by
      unfold BucketSet.placements rowIndices
      rw [height, List.map_flatMap]
      simp only [List.map_map, Function.comp_def]
    _ = table.bucketedRows set source := by
      unfold bucketedRows BucketSet.bucketsOf
      simp only [List.map_map, Function.comp_def]

/-- A table has its buckets in front if it has the column of their values and none with their name. -/
theorem expandBuckets_eq_withBuckets (buckets : scope.bucketSet = some set)
    (found : table.find? set.field.name = some source) (new : set.name ∉ table.names) :
    table.expandBuckets scope = .ok (table.withBuckets set source) :=
  expandBuckets_eq_ok.mpr (.inr ⟨set, source, buckets, found, new, rfl⟩)

theorem headers_withBuckets (table : Table) (set : BucketSet) (source : Column) :
    (table.withBuckets set source).headers = .grouping set.name .string :: table.headers := by
  unfold headers withBuckets takeRows
  rw [List.map_cons, List.map_map]
  rfl

/-- A table that has a column with the name of the buckets is refused. -/
theorem expandBuckets_of_taken (buckets : scope.bucketSet = some set)
    (found : table.find? set.field.name = some source) (taken : set.name ∈ table.names) :
    table.expandBuckets scope = .error (.table (.duplicateColumn set.name)) := by
  have again : set.name ∈ (table.takeRows ((set.placements source).map (·.1))).names := by
    rwa [names_takeRows]
  have refused : (table.takeRows ((set.placements source).map (·.1))).insertColumn 0 (bucketColumn set source) =
      .error (.duplicateColumn set.name) := insertColumn_eq_error.mpr (.inl ⟨again, rfl⟩)
  unfold bucketColumn at refused
  unfold expandBuckets expandSet
  simp only [buckets, found, refused]

/-- A row with a listed value is found beside the bucket that lists it. -/
theorem mem_rows_of_lists (even : table.Even) (buckets : scope.bucketSet = some set)
    (found : table.find? set.field.name = some source) (ran : table.expandBuckets scope = .ok expanded)
    {row : Nat} (listed : row ∈ table.rowIndices) {name : String} (lists : set.Lists name (source.cell row)) :
    .str name :: table.row row ∈ expanded.rows := by
  rcases expandBuckets_eq_ok.mp ran with ⟨none, -⟩ | ⟨own, column, own_eq, column_eq, -, rfl⟩
  · rw [none] at buckets
    cases buckets
  · obtain rfl := Option.some.inj (own_eq.symm.trans buckets)
    rw [rows_withBuckets even column_eq]
    obtain rfl := Option.some.inj (column_eq.symm.trans found)
    exact mem_bucketedRows_iff.mpr ⟨row, listed, name, lists, rfl⟩

end Table

/-! ### Moves -/

namespace Shifter

variable {set : BucketSet} {names : List String} {group member : Nat}

theorem columnPlace_eq_ok {name : String} {place : Nat} :
    columnPlace names name = .ok place ↔ names.idxOf? name = some place := by
  unfold columnPlace
  cases names.idxOf? name <;> simp

theorem getElem?_of_columnPlace {name : String} {place : Nat} (placed : columnPlace names name = .ok place) :
    names[place]? = some name := by
  obtain ⟨inside, here, -⟩ := List.idxOf?_eq_some_iff.mp (columnPlace_eq_ok.mp placed)
  rw [List.getElem?_eq_getElem inside, here]

/-- The comparison of buckets moves along the set of its scope, in the places of its columns. -/
theorem bucket_of_comparison {scope : Scope} (buckets : scope.bucketSet = some set) {label : String}
    {positions : SortedMap Field String} {shifter : Shifter}
    (made : ofComparison scope label positions none (some .bucket) none names = .ok shifter) :
    ∃ group member groupShift memberShift, columnPlace names set.name = .ok group ∧
      columnPlace names set.field.name = .ok member ∧
      shifter = .bucket group member set.buckets groupShift memberShift := by
  simp only [ofComparison, buckets] at made
  obtain ⟨group, groupPlaced, made⟩ := bind_eq_ok.mp made
  obtain ⟨member, memberPlaced, made⟩ := bind_eq_ok.mp made
  obtain ⟨groupShift, -, made⟩ := bind_eq_ok.mp made
  obtain ⟨memberShift, -, made⟩ := bind_eq_ok.mp made
  exact ⟨group, member, groupShift, memberShift, groupPlaced, memberPlaced, (Except.ok.inj made).symm⟩

/-- A move leads to a member of the bucket that is named, and leaves the other cells as they are. -/
structure Reaches (set : BucketSet) (group member : Nat) (start target : List Value) (name : String)
    (value : Value) : Prop where
  named : target[group]? = some (.str name)
  holds : target[member]? = some value
  lists : set.Lists name value
  others : ∀ place, place ≠ group → place ≠ member → target[place]? = start[place]?

/-- The shifts choose a bucket, and then a member among its own. -/
theorem exists_target {buckets : List Bucket} {groupShift memberShift : Shift} {start target : List Value}
    (moved : bucketPoint group member buckets groupShift memberShift start = some target) :
    ∃ bucket ∈ buckets, ∃ value ∈ bucket.members,
      target = (start.set group (.str bucket.name)).set member value := by
  obtain ⟨name, -, moved⟩ := Option.bind_eq_some_iff.mp moved
  obtain ⟨place, -, moved⟩ := Option.bind_eq_some_iff.mp moved
  obtain ⟨current, -, moved⟩ := Option.bind_eq_some_iff.mp moved
  obtain ⟨memberPlace, -, moved⟩ := Option.bind_eq_some_iff.mp moved
  obtain ⟨targetPlace, -, moved⟩ := Option.bind_eq_some_iff.mp moved
  obtain ⟨bucket, bucketAt, moved⟩ := Option.bind_eq_some_iff.mp moved
  obtain ⟨valuePlace, -, moved⟩ := Option.bind_eq_some_iff.mp moved
  obtain ⟨value, valueAt, moved⟩ := Option.bind_eq_some_iff.mp moved
  exact ⟨bucket, List.mem_of_getElem? bucketAt, value, List.mem_of_getElem? valueAt, (Option.some.inj moved).symm⟩

theorem exists_reached {groupShift memberShift : Shift} {start target : List Value} (apart : group ≠ member)
    (groupInside : group < start.length) (memberInside : member < start.length)
    (moved : (Shifter.bucket group member set.buckets groupShift memberShift).shift start = some target) :
    ∃ name value, Reaches set group member start target name value := by
  obtain ⟨bucket, inSet, value, listed, rfl⟩ := exists_target moved
  refine ⟨bucket.name, value, ?_, ?_, ⟨bucket, inSet, rfl, listed⟩, ?_⟩
  · rw [List.getElem?_set_ne apart.symm, List.getElem?_set_self groupInside]
  · exact List.getElem?_set_self (by simpa using memberInside)
  · intro place notGroup notMember
    rw [List.getElem?_set_ne notMember.symm, List.getElem?_set_ne notGroup.symm]

end Shifter

/-! ### Expansion and moves together -/

namespace Table

variable {table : Table} {set : BucketSet} {source : Column} {scope : Scope}

/-- A move along the buckets starts and ends in the two columns of the set, which are different. -/
theorem exists_reached_withBuckets (found : table.find? set.field.name = some source)
    (new : set.name ∉ table.names) {group member : Nat}
    (groupPlaced : Shifter.columnPlace (table.withBuckets set source).groupingNames set.name = .ok group)
    (memberPlaced : Shifter.columnPlace (table.withBuckets set source).groupingNames set.field.name = .ok member)
    {groupShift memberShift : Shift} {row : Nat} {target : List Value}
    (moved : (Shifter.bucket group member set.buckets groupShift memberShift).shift
      ((table.withBuckets set source).point row) = some target) :
    ∃ name value, Shifter.Reaches set group member ((table.withBuckets set source).point row) target name value := by
  have groupAt := Shifter.getElem?_of_columnPlace groupPlaced
  have memberAt := Shifter.getElem?_of_columnPlace memberPlaced
  have length : ((table.withBuckets set source).point row).length =
      (table.withBuckets set source).groupingNames.length := by
    simp [point, cells, groupingNames]
  have apart : group ≠ member := by
    rintro rfl
    have same : set.name = set.field.name := Option.some.inj (groupAt.symm.trans memberAt)
    exact new (same ▸ find?_isSome.mp (found ▸ rfl))
  refine Shifter.exists_reached apart ?_ ?_ moved
  · rw [length]
    exact (List.getElem?_eq_some_iff.mp groupAt).1
  · rw [length]
    exact (List.getElem?_eq_some_iff.mp memberAt).1

/-- A table that has the source column of a bucket set is refused if it has a column with the name of the set. Else
it is expanded to exactly one row for each row and each bucket that lists its value, in the order of the rows and
then of the buckets, with the bucket in front and all other cells copied. From the rows of the expansion every
shifter of a comparison along the set, whatever its two shifts are, leads to a value under the name of a bucket that
lists it and changes no other cell. So it leads to what the expansion of any row with that value has. -/
theorem expanded_once_and_moved_within (buckets : scope.bucketSet = some set) (even : table.Even)
    (found : table.find? set.field.name = some source) :
    (set.name ∈ table.names → table.expandBuckets scope = .error (.table (.duplicateColumn set.name))) ∧
      (set.name ∉ table.names → ∃ expanded, table.expandBuckets scope = .ok expanded ∧
        expanded.headers = .grouping set.name .string :: table.headers ∧
        expanded.rows = table.bucketedRows set source ∧
        (∀ label positions shifter,
          Shifter.ofComparison scope label positions none (some .bucket) none expanded.groupingNames = .ok shifter →
            ∃ group member groupShift memberShift,
              Shifter.columnPlace expanded.groupingNames set.name = .ok group ∧
              Shifter.columnPlace expanded.groupingNames set.field.name = .ok member ∧
              shifter = .bucket group member set.buckets groupShift memberShift) ∧
        ∀ group member, Shifter.columnPlace expanded.groupingNames set.name = .ok group →
          Shifter.columnPlace expanded.groupingNames set.field.name = .ok member →
            ∀ groupShift memberShift, ∀ row ∈ expanded.rowIndices, ∀ target,
              (Shifter.bucket group member set.buckets groupShift memberShift).shift (expanded.point row) =
                some target →
              ∃ name value, Shifter.Reaches set group member (expanded.point row) target name value ∧
                ∀ (other otherExpanded : Table) (otherSource : Column), other.Even →
                  other.find? set.field.name = some otherSource →
                  other.expandBuckets scope = .ok otherExpanded →
                  ∀ place ∈ other.rowIndices, otherSource.cell place = value →
                    .str name :: other.row place ∈ otherExpanded.rows) := by
  refine ⟨expandBuckets_of_taken buckets found, fun new => ?_⟩
  refine ⟨table.withBuckets set source, expandBuckets_eq_withBuckets buckets found new,
    headers_withBuckets table set source, rows_withBuckets even found,
    fun label positions shifter => Shifter.bucket_of_comparison buckets, ?_⟩
  intro group member groupPlaced memberPlaced groupShift memberShift row _ target moved
  obtain ⟨name, value, reaches⟩ := exists_reached_withBuckets found new groupPlaced memberPlaced moved
  refine ⟨name, value, reaches, ?_⟩
  rintro other otherExpanded otherSource otherEven otherFound ran place listed rfl
  exact mem_rows_of_lists otherEven buckets otherFound ran listed reaches.lists

end Table

/-! ### Scenarios in groups -/

/-- The sales by the column that a bucket set reads. -/
def BucketSet.salesScope (set : BucketSet) : Scope :=
  .ofQuery { Query.empty with table := some (.ofName "sales"), columns := [set.field], bucketSet := some set }

def groupedScenarios : BucketSet :=
  ⟨"group", .ofName "scenario",
    [⟨"group1", [.str "base", .str "s1"]⟩, ⟨"group2", [.str "base", .str "s2"]⟩]⟩

/-- The same groups under the name of the column that they are made of. -/
def renamedScenarios : BucketSet := { groupedScenarios with name := "scenario" }

def scenarioCells : Column := ⟨.grouping "scenario" .string, [.str "base", .str "s1", .str "s2", .str "s3"]⟩

def fourPrices : Table := ⟨[scenarioCells, ⟨.measure "p" .long, [.int 2, .int 3, .int 5, .int 7]⟩]⟩

namespace Table

theorem fourPrices_even : fourPrices.Even := by
  show ∀ column ∈ fourPrices.columns, column.values.length = fourPrices.rowCount
  decide

/-- Of the four scenarios one is in both groups and one in none, and a place further in the next group stands
another scenario of that group. -/
theorem scenarios_expanded_and_moved : ∃ expanded target,
    fourPrices.expandBuckets groupedScenarios.salesScope = .ok expanded ∧
      expanded.rows = [[.str "group1", .str "base", .int 2], [.str "group2", .str "base", .int 2],
        [.str "group1", .str "s1", .int 3], [.str "group2", .str "s2", .int 5]] ∧
      (Shifter.bucket 0 1 groupedScenarios.buckets (.offset 1) (.offset 1)).shift (expanded.point 0) =
        some target ∧
      target = [.str "group2", .str "s2"] ∧ .str "group2" :: fourPrices.row 2 ∈ expanded.rows := by
  have buckets : groupedScenarios.salesScope.bucketSet = some groupedScenarios := rfl
  have found : fourPrices.find? groupedScenarios.field.name = some scenarioCells := rfl
  have new : groupedScenarios.name ∉ fourPrices.names := by decide
  obtain ⟨expanded, ran, -, rows, -, moves⟩ := (expanded_once_and_moved_within buckets fourPrices_even found).2 new
  have known := expandBuckets_eq_withBuckets buckets found new
  obtain rfl := Except.ok.inj (known.symm.trans ran)
  obtain ⟨name, value, reaches, met⟩ :=
    moves 0 1 rfl rfl (.offset 1) (.offset 1) 0 (by decide) [.str "group2", .str "s2"] (by decide)
  obtain rfl : "group2" = name := Value.str.inj (Option.some.inj reaches.named)
  obtain rfl : .str "s2" = value := Option.some.inj reaches.holds
  exact ⟨_, _, ran, rows, by decide, rfl, met fourPrices _ scenarioCells fourPrices_even found ran 2 (by decide) rfl⟩

/-- Groups that are named like the scenarios cannot stand beside them. -/
theorem renamed_scenarios_refused : ¬∀ (scope : Scope) (set : BucketSet) (table : Table) (source : Column),
    scope.bucketSet = some set → table.Even → table.find? set.field.name = some source →
      ∃ expanded, table.expandBuckets scope = .ok expanded ∧ expanded.rows = table.bucketedRows set source := by
  intro all
  have buckets : renamedScenarios.salesScope.bucketSet = some renamedScenarios := rfl
  have found : fourPrices.find? renamedScenarios.field.name = some scenarioCells := rfl
  obtain ⟨expanded, ran, -⟩ := all _ renamedScenarios fourPrices scenarioCells buckets fourPrices_even found
  rw [expandBuckets_of_taken buckets found (by decide)] at ran
  cases ran

end Table

end CubeQuery
