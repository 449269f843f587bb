import CubeQuery.Proofs.Cache.Hits
import CubeQuery.Proofs.Execution.MarkedTotals
import CubeQuery.Proofs.Memory.Lines

/-! Points of the rows that the database in memory gives. Each row is for one group of one grouping set.
Once totals are marked, its point tells the set and the group, unless a value of a column that has totals
is taken for a total itself. -/

namespace CubeQuery

open Steps

namespace Statement

/-- Grouping sets that have the same columns of those that are selected. -/
def SameSet (statement : Statement) (set other : List TypedField) : Prop :=
  ∀ field ∈ statement.select, field ∈ set ↔ field ∈ other

instance (statement : Statement) (set other : List TypedField) : Decidable (statement.SameSet set other) :=
  inferInstanceAs (Decidable (∀ field ∈ statement.select, field ∈ set ↔ field ∈ other))

theorem SameSet.groupKey_eq {statement : Statement} {set other : List TypedField}
    (same : statement.SameSet set other) :
    statement.groupKey set = statement.groupKey other := by
  funext row
  unfold groupKey
  refine List.map_congr_left fun field selected => ?_
  simp [same field selected]

end Statement

namespace MemoryDatabase

variable {database : MemoryDatabase} {statement : Statement} {rows : List Row}

/-- The database of an engine over rows. -/
abbrev ofRows (dialect : Dialect) (tables : List (String × List Row)) : MemoryDatabase :=
  ⟨tables, dialect.groupingMarkers⟩

/-- A value that is taken for a total, once totals are marked. -/
def ReadsAsTotal (database : MemoryDatabase) (value : Value) : Prop :=
  value = .total ∨ database.groupingMarkers = false ∧ value = .null

/-- No row has a value that is taken for a total where the statement has totals. -/
def TotalsTell (database : MemoryDatabase) (statement : Statement) (rows : List Row) : Prop :=
  ∀ row ∈ rows, ∀ field ∈ statement.totalColumns, ¬database.ReadsAsTotal (row.read field)

/-! ### Groups -/

/-- Two groups of the same rows, perhaps of two grouping sets. -/
structure SameGroup (statement : Statement) (first second : List TypedField × List Value) : Prop where
  sets : ∀ field ∈ statement.select, field ∈ first.1 ↔ field ∈ second.1
  keys : first.2 = second.2

variable {first second group : List TypedField × List Value}

theorem SameGroup.members_eq (same : SameGroup statement first second) :
    members statement rows first = members statement rows second := by
  have keyOf : statement.groupKey first.1 = statement.groupKey second.1 :=
    Statement.SameSet.groupKey_eq same.sets
  unfold members
  rw [keyOf, same.keys]

theorem SameGroup.valueOf_eq (same : SameGroup statement first second) (measure : TypedMeasure) :
    valueOf statement rows measure first = valueOf statement rows measure second := by
  unfold valueOf
  rw [same.members_eq]

/-- A group is made by one of its rows, unless there is nothing to group by. -/
theorem exists_row_of_group (listed : group ∈ groups statement rows) (selects : statement.select ≠ []) :
    group.1 ∈ statement.groupingSetList ∧ ∃ row ∈ rows, group.2 = statement.groupKey group.1 row := by
  obtain ⟨set, member, keys⟩ := List.mem_flatMap.mp listed
  obtain ⟨key, keyListed, rfl⟩ := List.mem_map.mp keys
  unfold Statement.groupKeys at keyListed
  rw [if_neg (fun empty => selects (List.isEmpty_iff.mp empty))] at keyListed
  obtain ⟨row, source, rfl⟩ := List.mem_map.mp
    (List.mem_eraseDups.mp ((List.mergeSort_perm _ _).subset keyListed))
  exact ⟨member, row, source, rfl⟩

/-! ### Columns in front of the measures -/

/-- The groups that an answer shows. -/
abbrev shown (statement : Statement) (rows : List Row) : List (List TypedField × List Value) :=
  limited statement.limit (groups statement rows)

/-- The columns in front of the measures as a table. -/
abbrev frontTable (database : MemoryDatabase) (statement : Statement) (rows : List Row) : Table :=
  ⟨frontColumns database statement rows⟩

/-- An answer before its totals are marked. -/
abbrev answerTable (database : MemoryDatabase) (statement : Statement) (rows : List Row) : Table :=
  (frontTable database statement rows).extend (statement.measures.map (measureColumn statement rows))

theorem formed_front (formed : (answerTable database statement rows).WellFormed) :
    (frontTable database statement rows).WellFormed where
  lengths := Table.lengths_of_uniform fun column listed =>
    lengths_columns [] column (List.mem_append_left _ listed)
  distinct := by
    have distinct := formed.distinct
    rw [Table.names_extend] at distinct
    exact distinct.of_append_left

/-- A total is told by its name among the selected columns. -/
theorem plain_of_name (formed : (frontTable database statement rows).WellFormed)
    (checked : statement.check = .ok ()) {field : TypedField} (selected : field ∈ statement.select)
    (plain : field ∉ statement.totalColumns) : field.name ∉ statement.totalColumns.map TypedField.name := by
  intro name
  obtain ⟨other, member, same⟩ := List.mem_map.mp name
  have distinct := formed.distinct
  unfold Table.names at distinct
  rw [names_frontColumns] at distinct
  exact plain (List.inj_on_of_nodup_map distinct.of_append_left
    (Statement.totalColumns_subset checked member) selected same ▸ member)

theorem find?_front (formed : (frontTable database statement rows).WellFormed) {index : Nat}
    (inside : index < (frontHeaders database statement).length) :
    ∃ column, (frontTable database statement rows).find? (frontHeaders database statement)[index].name =
      some column ∧ column.values.length = (shown statement rows).length ∧
        ∀ row (here : row < (shown statement rows).length),
          column.cell row = (front database statement (shown statement rows)[row])[index]?.getD .null := by
  have width : index < (frontColumns database statement rows).length := by simpa [frontColumns] using inside
  have found := formed.find?_eq_some (List.getElem_mem width)
  have column_eq : (frontColumns database statement rows)[index] =
      ⟨(frontHeaders database statement)[index], (shown statement rows).map fun group =>
        (front database statement group)[index]?.getD .null⟩ := by
    simp [frontColumns]
  rw [column_eq] at found
  refine ⟨_, found, List.length_map _, fun row here => ?_⟩
  unfold Column.cell
  rw [List.getElem?_map, List.getElem?_eq_getElem here]
  rfl

theorem mem_groups_of_shown {row : Nat} (here : row < (shown statement rows).length) :
    (shown statement rows)[row] ∈ groups statement rows :=
  (limited_sublist statement.limit (groups statement rows)).subset (List.getElem_mem here)

/-- The column of a selected field has the keys of the groups. -/
theorem find?_selected (formed : (frontTable database statement rows).WellFormed) {index : Nat}
    (inside : index < statement.select.length) :
    ∃ column, (frontTable database statement rows).find? statement.select[index].name = some column ∧
      column.values.length = (shown statement rows).length ∧
        ∀ row (here : row < (shown statement rows).length),
          column.cell row = (shown statement rows)[row].2[index]?.getD .null := by
  have header : (frontHeaders database statement)[index]? =
      some (.grouping statement.select[index].name statement.select[index].type) := by
    unfold frontHeaders
    rw [List.getElem?_append_left (by rwa [List.length_map]), List.getElem?_map,
      List.getElem?_eq_getElem inside]
    rfl
  obtain ⟨below, header_eq⟩ := List.getElem?_eq_some_iff.mp header
  obtain ⟨column, found, length, cells⟩ := find?_front formed below
  rw [header_eq] at found
  refine ⟨column, found, length, fun row here => ?_⟩
  rw [cells row here]
  unfold front
  rw [List.getElem?_append_left (by rwa [length_key (mem_groups_of_shown here)])]

/-- The marker of a field is one where the grouping set lacks it. -/
theorem find?_marker (formed : (frontTable database statement rows).WellFormed)
    (marking : database.groupingMarkers = true) {field : TypedField}
    (total : field ∈ statement.totalColumns) :
    ∃ column, (frontTable database statement rows).find? (GroupingMarker.label field.name) = some column ∧
      ∀ row (here : row < (shown statement rows).length),
        column.cell row = .int (if field ∈ (shown statement rows)[row].1 then 0 else 1) := by
  obtain ⟨index, inside, rfl⟩ := List.getElem_of_mem total
  have header : (frontHeaders database statement)[statement.select.length + index]? =
      some (.grouping (GroupingMarker.label statement.totalColumns[index].name) .long) := by
    unfold frontHeaders
    rw [if_pos marking, List.getElem?_append_right (by simp), List.length_map, Nat.add_sub_cancel_left,
      List.getElem?_map, List.getElem?_eq_getElem inside]
    rfl
  obtain ⟨below, header_eq⟩ := List.getElem?_eq_some_iff.mp header
  obtain ⟨column, found, -, cells⟩ := find?_front formed below
  rw [header_eq] at found
  refine ⟨column, found, fun row here => ?_⟩
  have listed := mem_groups_of_shown here
  rw [cells row here]
  unfold front Statement.markerCells
  rw [if_pos marking, List.getElem?_append_right (by rw [length_key listed]; exact Nat.le_add_right _ _),
    length_key listed, Nat.add_sub_cancel_left, List.getElem?_map, List.getElem?_eq_getElem inside]
  simp

theorem key_cell (listed : group ∈ groups statement rows) {index : Nat}
    (inside : index < statement.select.length) :
    ∃ row ∈ rows, group.2[index]?.getD .null =
      if statement.select[index] ∈ group.1 then row.read statement.select[index] else .null := by
  obtain ⟨-, row, source, key⟩ :=
    exists_row_of_group listed (List.ne_nil_of_length_pos (Nat.zero_lt_of_lt inside))
  refine ⟨row, source, ?_⟩
  rw [key]
  unfold Statement.groupKey
  rw [List.getElem?_map, List.getElem?_eq_getElem inside]
  simp

/-! ### Totals -/

/-- What is marked as a total tells whether its column is grouped, and its key. -/
theorem tells_of_marked {grouped otherGrouped : Prop} [Decidable grouped] [Decidable otherGrouped]
    {value other : Value} (plain : value ≠ .total) (otherPlain : other ≠ .total)
    (same : (if grouped then value else .total) = if otherGrouped then other else .total) :
    (grouped ↔ otherGrouped) ∧
      (if grouped then value else .null) = if otherGrouped then other else .null := by
  by_cases here : grouped <;> by_cases there : otherGrouped
  · simp_all
  · exact absurd (by simpa [here, there] using same) plain
  · exact absurd (by simpa [here, there] using same.symm) otherPlain
  · simp [here, there]

theorem marked_null {grouped : Prop} [Decidable grouped] {value : Value} (plain : value ≠ .null) :
    (if (if grouped then value else .null) = .null then .total else if grouped then value else .null) =
      if grouped then value else .total := by
  by_cases here : grouped
  · rw [if_pos here, if_neg plain, if_pos here]
  · rw [if_neg here, if_pos rfl, if_neg here]

theorem marked_flag {grouped : Prop} [Decidable grouped] {value : Value} :
    (if isFlag (.int (if grouped then 0 else 1)) then .total else if grouped then value else .null) =
      if grouped then value else .total := by
  have unset : isFlag (.int 0) = false := by decide +kernel
  have set : isFlag (.int 1) = true := by decide +kernel
  by_cases here : grouped
  · simp [here, unset]
  · simp [here, set]

/-- The fields whose markers are taken for markers. -/
abbrev readable (statement : Statement) : List String :=
  (statement.totalColumns.map TypedField.name).filter fun name =>
    GroupingMarker.isMarker (GroupingMarker.label name)

section

variable (formed : (frontTable database statement rows).WellFormed)
  (marking : database.groupingMarkers = true) (apart : statement.MarkersApart true)
  (checked : statement.check = .ok ()) (totals : statement.hasTotals = true)

include formed marking in
theorem ne_label {name : String} (selected : name ∈ statement.select.map TypedField.name)
    {field : TypedField} (total : field ∈ statement.totalColumns) :
    name ≠ GroupingMarker.label field.name := by
  have distinct := formed.distinct
  unfold Table.names at distinct
  rw [names_frontColumns, if_pos marking] at distinct
  exact (List.nodup_append.mp distinct).2.2 name selected _ (List.mem_map_of_mem total)

include marking apart totals in
theorem filter_isMarker : (frontTable database statement rows).names.filter GroupingMarker.isMarker =
    (readable statement).map GroupingMarker.label := by
  have selected : (statement.select.map TypedField.name).filter GroupingMarker.isMarker = [] :=
    List.filter_eq_nil_iff.mpr fun name listed => by
      simp [apart rfl totals name (List.mem_append_left _ listed)]
  have labels : (statement.totalColumns.map fun field => GroupingMarker.label field.name) =
      (statement.totalColumns.map TypedField.name).map GroupingMarker.label := by
    rw [List.map_map]
    rfl
  unfold Table.names
  rw [names_frontColumns, if_pos marking, List.filter_append, selected, List.nil_append, labels,
    List.filter_map]
  rfl

include formed marking apart checked totals in
/-- Markers flag the columns of the fields whose names they give back, and stay beside the others. -/
theorem markTotals_flags {next : Table} (run : statement.markTotals true
    (frontTable database statement rows) = (next, .ok ())) :
    (∀ name ∈ readable statement, ∃ flags,
      (frontTable database statement rows).find? (GroupingMarker.label name) = some flags ∧
        next.find? name = ((frontTable database statement rows).find? name).map (Table.flagged flags)) ∧
      ∀ name ∉ readable statement, name ∉ (readable statement).map GroupingMarker.label →
        next.find? name = (frontTable database statement rows).find? name := by
  have names : (frontTable database statement rows).names = statement.select.map TypedField.name ++
      (statement.totalColumns.map TypedField.name).map GroupingMarker.label := by
    unfold Table.names
    rw [names_frontColumns, if_pos marking, List.map_map]
    rfl
  have distinct := formed.distinct
  rw [names] at distinct
  have marked : ∀ name ∈ readable statement, (frontTable database statement rows).Marked name := by
    intro name listed
    obtain ⟨total, isMarker⟩ := List.mem_filter.mp listed
    have selected : name ∈ statement.select.map TypedField.name := by
      obtain ⟨field, member, rfl⟩ := List.mem_map.mp total
      exact List.mem_map_of_mem (Statement.totalColumns_subset checked member)
    obtain ⟨read, found⟩ := Option.isSome_iff_exists.mp isMarker
    refine ⟨?_, ?_, apart rfl totals name (List.mem_append_left _ selected), ?_⟩
    · rw [names]
      exact List.mem_append_right _ (List.mem_map_of_mem total)
    · rw [names]
      exact List.mem_append_left _ selected
    · rw [found, GroupingMarker.field?_label_eq found]
  obtain ⟨marked, ran, -, flagged, kept⟩ :=
    Table.applyMarkers_flags ((distinct.of_append_right.of_map _).filter _) marked
  have same : statement.markTotals true (frontTable database statement rows) = (marked, .ok ()) := by
    unfold Statement.markTotals Table.markTotals
    rw [if_pos rfl, filter_isMarker marking apart totals, ran]
  obtain rfl := (Prod.mk.inj (run.symm.trans same)).1
  exact ⟨flagged, kept⟩

include formed marking apart checked totals in
theorem find?_of_selected {next : Table} (run : statement.markTotals true
    (frontTable database statement rows) = (next, .ok ())) {name : String}
    (selected : name ∈ statement.select.map TypedField.name) (unread : name ∉ readable statement) :
    next.find? name = (frontTable database statement rows).find? name := by
  refine (markTotals_flags formed marking apart checked totals run).2 name unread fun label => ?_
  obtain ⟨_, listed, same⟩ := List.mem_map.mp label
  obtain ⟨field, total, rfl⟩ := List.mem_map.mp (List.mem_of_mem_filter listed)
  exact ne_label formed marking selected total same.symm

include formed marking apart checked totals in
/-- A marker that does not give its field back stays. -/
theorem find?_of_marker {next : Table} (run : statement.markTotals true
    (frontTable database statement rows) = (next, .ok ())) {field : TypedField}
    (total : field ∈ statement.totalColumns) (unread : field.name ∉ readable statement) :
    next.find? (GroupingMarker.label field.name) =
      (frontTable database statement rows).find? (GroupingMarker.label field.name) := by
  refine (markTotals_flags formed marking apart checked totals run).2 _ (fun listed => ?_) fun label => ?_
  · obtain ⟨other, member, same⟩ := List.mem_map.mp (List.mem_of_mem_filter listed)
    have selected := List.mem_map_of_mem (f := TypedField.name)
      (Statement.totalColumns_subset checked member)
    exact ne_label formed marking selected total same
  · obtain ⟨name, listed, same⟩ := List.mem_map.mp label
    refine unread (List.mem_filter.mpr ⟨List.mem_map_of_mem total, ?_⟩)
    rw [← same]
    exact (List.mem_filter.mp listed).2

end

/-- Rows of one point, once totals are marked, at a column that has totals. -/
theorem tells_of_total (formed : (frontTable database statement rows).WellFormed)
    (apart : statement.MarkersApart database.groupingMarkers) (checked : statement.check = .ok ())
    (tell : TotalsTell database statement rows) {next : Table}
    (run : statement.markTotals database.groupingMarkers (frontTable database statement rows) =
      (next, .ok ())) {row other : Nat} (here : row < (shown statement rows).length)
    (there : other < (shown statement rows).length)
    (same : ∀ name column, next.find? name = some column → column.cell row = column.cell other)
    {index : Nat} (inside : index < statement.select.length)
    (total : statement.select[index] ∈ statement.totalColumns) :
    (statement.select[index] ∈ (shown statement rows)[row].1 ↔
        statement.select[index] ∈ (shown statement rows)[other].1) ∧
      (shown statement rows)[row].2[index]?.getD .null =
        (shown statement rows)[other].2[index]?.getD .null := by
  obtain ⟨column, found, length, cells⟩ := find?_selected formed inside
  obtain ⟨source, sourceListed, key⟩ := key_cell (mem_groups_of_shown here) inside
  obtain ⟨otherSource, otherListed, otherKey⟩ := key_cell (mem_groups_of_shown there) inside
  have plain := not_or.mp (tell source sourceListed _ total)
  have otherPlain := not_or.mp (tell otherSource otherListed _ total)
  have totals : statement.hasTotals = true := by
    simpa [Statement.hasTotals] using List.ne_nil_of_mem total
  have selected := List.mem_map_of_mem (f := TypedField.name) (Statement.totalColumns_subset checked total)
  rw [key, otherKey]
  cases marking : database.groupingMarkers with
  | false =>
    rw [marking] at run
    have nulls := Table.find?_markNullTotals run statement.select[index].name
    rw [if_pos (List.mem_map_of_mem total), found] at nulls
    have cell_eq := same _ _ nulls
    rw [Table.cell_nullsMarked (length ▸ here), Table.cell_nullsMarked (length ▸ there), cells row here,
      cells other there, key, otherKey] at cell_eq
    rw [marked_null fun null => plain.2 ⟨marking, null⟩,
      marked_null fun null => otherPlain.2 ⟨marking, null⟩] at cell_eq
    exact tells_of_marked plain.1 otherPlain.1 cell_eq
  | true =>
    rw [marking] at run apart
    obtain ⟨marker, markerFound, flags⟩ := find?_marker formed marking total
    by_cases read : statement.select[index].name ∈ readable statement
    · obtain ⟨flagging, flagsFound, new⟩ :=
        (markTotals_flags formed marking apart checked totals run).1 _ read
      obtain rfl := Option.some.inj (markerFound.symm.trans flagsFound)
      rw [found] at new
      have cell_eq := same _ _ new
      rw [Table.cell_flagged (length ▸ here), Table.cell_flagged (length ▸ there), flags row here,
        flags other there, cells row here, cells other there, key, otherKey, marked_flag,
        marked_flag] at cell_eq
      exact tells_of_marked plain.1 otherPlain.1 cell_eq
    · have labelKept := (find?_of_marker formed marking apart checked totals run total read).trans markerFound
      have flag_eq := same _ _ labelKept
      have cell_eq :=
        same _ _ ((find?_of_selected formed marking apart checked totals run selected read).trans found)
      rw [flags row here, flags other there] at flag_eq
      rw [cells row here, cells other there, key, otherKey] at cell_eq
      refine ⟨?_, cell_eq⟩
      by_cases grouped : statement.select[index] ∈ (shown statement rows)[row].1 <;>
        by_cases otherGrouped : statement.select[index] ∈ (shown statement rows)[other].1 <;>
        simp_all

/-- A column without totals stays as it is, and has its key in every row. -/
theorem key_eq_of_plain (formed : (frontTable database statement rows).WellFormed)
    (apart : statement.MarkersApart database.groupingMarkers) (checked : statement.check = .ok ())
    {marked : List Column}
    (plain : statement.hasTotals = false → marked = frontColumns database statement rows)
    (run : statement.hasTotals = true →
      statement.markTotals database.groupingMarkers (frontTable database statement rows) =
        (⟨marked⟩, .ok ())) {row other : Nat} (here : row < (shown statement rows).length)
    (there : other < (shown statement rows).length)
    (same : ∀ name column, (⟨marked⟩ : Table).find? name = some column → column.cell row = column.cell other)
    {index : Nat} (inside : index < statement.select.length)
    (total : statement.select[index] ∉ statement.totalColumns) :
    (shown statement rows)[row].2[index]?.getD .null =
      (shown statement rows)[other].2[index]?.getD .null := by
  obtain ⟨column, found, -, cells⟩ := find?_selected formed inside
  have selected := List.mem_map_of_mem (f := TypedField.name) (List.getElem_mem inside)
  have untold := plain_of_name formed checked (List.getElem_mem inside) total
  rw [← cells row here, ← cells other there]
  apply same statement.select[index].name
  cases totals : statement.hasTotals with
  | false => rw [plain totals, found]
  | true =>
    have ran := run totals
    cases marking : database.groupingMarkers with
    | false =>
      rw [marking] at ran
      rw [Table.find?_markNullTotals ran, if_neg untold, found]
    | true =>
      rw [marking] at ran apart
      rw [find?_of_selected formed marking apart checked totals ran selected
        fun read => untold (List.mem_of_mem_filter read), found]

/-- Rows of one point, once totals are marked, are for one group. -/
theorem sameGroup_of_point (formed : (frontTable database statement rows).WellFormed)
    (apart : statement.MarkersApart database.groupingMarkers) (checked : statement.check = .ok ())
    (tell : TotalsTell database statement rows) {marked : List Column}
    (plain : statement.hasTotals = false → marked = frontColumns database statement rows)
    (run : statement.hasTotals = true →
      statement.markTotals database.groupingMarkers (frontTable database statement rows) =
        (⟨marked⟩, .ok ())) {row other : Nat} (here : row < (shown statement rows).length)
    (there : other < (shown statement rows).length)
    (same : Table.cells marked row = Table.cells marked other) :
    SameGroup statement (shown statement rows)[row] (shown statement rows)[other] := by
  have sameCell (name : String) (column : Column) (found : (⟨marked⟩ : Table).find? name = some column) :
      column.cell row = column.cell other :=
    List.map_inj_left.mp same column (Table.mem_of_find? found)
  have each {index : Nat} (inside : index < statement.select.length) :
      (statement.select[index] ∈ (shown statement rows)[row].1 ↔
          statement.select[index] ∈ (shown statement rows)[other].1) ∧
        (shown statement rows)[row].2[index]?.getD .null =
          (shown statement rows)[other].2[index]?.getD .null := by
    by_cases total : statement.select[index] ∈ statement.totalColumns
    · have totals : statement.hasTotals = true := by
        simpa [Statement.hasTotals] using List.ne_nil_of_mem total
      exact tells_of_total formed apart checked tell (run totals) here there sameCell inside total
    · have selects := List.ne_nil_of_length_pos (Nat.zero_lt_of_lt inside)
      have grouped {row : Nat} (shows : row < (shown statement rows).length) :
          statement.select[index] ∈ (shown statement rows)[row].1 :=
        Statement.mem_of_mem_groupingSetList
          (exists_row_of_group (mem_groups_of_shown shows) selects).1 (List.getElem_mem inside) total
      exact ⟨⟨fun _ => grouped there, fun _ => grouped here⟩,
        key_eq_of_plain formed apart checked plain run here there sameCell inside total⟩
  constructor
  · intro field selected
    obtain ⟨index, inside, rfl⟩ := List.getElem_of_mem selected
    exact (each inside).1
  · have width {row : Nat} (shows : row < (shown statement rows).length) :=
      length_key (mem_groups_of_shown shows)
    apply List.ext_getElem ((width here).trans (width there).symm)
    intro index first second
    have sameKey := (each (width here ▸ first)).2
    rwa [List.getElem?_eq_getElem first, List.getElem?_eq_getElem second] at sameKey

theorem cell_measureColumn (measure : TypedMeasure) {row : Nat}
    (here : row < (shown statement rows).length) :
    (measureColumn statement rows measure).cell row =
      valueOf statement rows measure (shown statement rows)[row] := by
  unfold measureColumn Column.cell
  rw [List.getElem?_map, List.getElem?_eq_getElem here]
  rfl

end MemoryDatabase

/-- Rows of one point are the same in what is received of the database in memory, unless a value of a
column that has totals is taken for a total. -/
theorem Engine.row_eq_of_point {dialect : Dialect} {datastore : Datastore} {tables : List (String × List Row)}
    {statement : Statement} (checked : statement.check = .ok ())
    (apart : statement.MarkersApart dialect.groupingMarkers) (asked : statement.measures ≠ [])
    (tell : ∀ rows, (MemoryDatabase.ofRows dialect tables).selectedRows statement = .ok rows →
      (MemoryDatabase.ofRows dialect tables).TotalsTell statement rows) {number : Nat}
    {table : Table} (received : (Engine.ofRows dialect datastore tables).receive number statement = .ok table)
    {row other : Nat} (here : row ∈ table.rowIndices) (there : other ∈ table.rowIndices)
    (same : table.point row = table.point other) : table.row row = table.row other := by
  have backend := Engine.columnwise_ofRows dialect datastore tables
  obtain ⟨raw, answered⟩ := answered_of_receive received
  have delivers := backend.delivers checked apart asked answered
  obtain ⟨-, -, run⟩ := backend.framed_spec checked apart answered
  obtain rfl := Except.ok.inj ((delivers.received number).symm.trans received)
  obtain ⟨-, rows, selected, -, made⟩ := MemoryDatabase.answer_eq_ok.mp answered
  have formed : (MemoryDatabase.frontTable (.ofRows dialect tables) statement rows).WellFormed := by
    obtain ⟨rfl, formed⟩ := MemoryDatabase.ofRows_lines_eq_ok.mp made
    exact MemoryDatabase.formed_front formed
  have frame_eq := MemoryDatabase.frame_core selected
  have column_eq := MemoryDatabase.columnOf_core selected
  rw [frame_eq] at run
  -- A measure that is asked for tells how many rows there are.
  have height : (Engine.delivered (.ofRows dialect datastore tables)
      (MemoryDatabase.frame (.ofRows dialect tables)) (MemoryDatabase.columnOf (.ofRows dialect tables))
        statement).rowCount = (MemoryDatabase.shown statement rows).length := by
    obtain ⟨measure, listed⟩ := List.exists_mem_of_ne_nil _ asked
    rw [← delivers.formed.lengths _ (List.mem_append_right _ (List.mem_map_of_mem listed)), column_eq]
    exact List.length_map _
  unfold Table.rowIndices at here there
  rw [height, List.mem_range] at here there
  unfold Table.point at same
  rw [delivers.groupingColumns_eq] at same
  have group := MemoryDatabase.sameGroup_of_point formed apart checked (tell rows selected)
    (fun none => (if_neg (Bool.eq_false_iff.mp none)).trans frame_eq) run here there same
  have cells_eq (front back : List Column) (index : Nat) :
      Table.cells (front ++ back) index = Table.cells front index ++ Table.cells back index :=
    List.map_append
  unfold Table.row delivered
  rw [cells_eq, cells_eq, same, column_eq]
  refine congrArg (_ ++ ·) ?_
  unfold Table.cells
  rw [List.map_map, List.map_map]
  refine List.map_congr_left fun measure _ => ?_
  calc (MemoryDatabase.measureColumn statement rows measure).cell row
    _ = MemoryDatabase.valueOf statement rows measure (MemoryDatabase.shown statement rows)[row] :=
      MemoryDatabase.cell_measureColumn measure here
    _ = MemoryDatabase.valueOf statement rows measure (MemoryDatabase.shown statement rows)[other] :=
      group.valueOf_eq measure
    _ = (MemoryDatabase.measureColumn statement rows measure).cell other :=
      (MemoryDatabase.cell_measureColumn measure there).symm

end CubeQuery
