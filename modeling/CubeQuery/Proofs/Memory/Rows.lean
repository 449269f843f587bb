import CubeQuery.Proofs.Memory.Points

/-! What is received of the database in memory is a table with a row for each group. The point of a row is
the key of its group with totals in the columns that its grouping set lacks, and as long as no value is
taken for a total, it is the point of one group only. -/

namespace CubeQuery

open Steps

namespace Statement

/-- Markers give back the names of the columns that have totals. -/
def MarkersReadable (statement : Statement) (groupingMarkers : Bool) : Prop :=
  groupingMarkers = true → ∀ field ∈ statement.totalColumns, GroupingMarker.Readable field.name

/-- The point of a row in a grouping set, with totals in the columns that the set lacks. -/
def pointIn (statement : Statement) (set : List TypedField) (row : Row) : List Value :=
  statement.select.map fun field => if field ∈ set then row.read field else .total

variable {statement : Statement} {set : List TypedField}

/-- Only the columns that a grouping set lacks are not told by a point. -/
theorem groupKey_eq_of_pointIn {row otherRow : Row}
    (same : statement.pointIn set row = statement.pointIn set otherRow) :
    statement.groupKey set row = statement.groupKey set otherRow := by
  unfold pointIn at same
  unfold groupKey
  refine List.map_congr_left fun field selected => ?_
  by_cases listed : field ∈ set
  · simpa [listed] using List.map_inj_left.mp same field selected
  · simp [listed]

end Statement

theorem Engine.receive_eq_ok {engine : Engine} {number : Nat} {statement : Statement} {table : Table} :
    engine.receive number statement = .ok table ↔ ∃ raw, engine.answer number statement = .ok raw ∧
      (if statement.hasTotals then statement.markTotals engine.dialect.groupingMarkers raw
        else (raw, .ok ())) = (table, .ok ()) := by
  unfold Engine.receive
  rw [bind_eq_ok]
  refine exists_congr fun raw => and_congr_right fun _ => ?_
  cases statement.hasTotals with
  | false => simp
  | true =>
    rcases statement.markTotals engine.dialect.groupingMarkers raw with ⟨marked, outcome | done⟩
    · exact ⟨nofun, nofun⟩
    · exact ⟨fun same => congrArg (·, Except.ok done) (Except.ok.inj same), fun same =>
        congrArg Except.ok (Prod.mk.inj same).1⟩

namespace MemoryDatabase

variable {database : MemoryDatabase} {statement : Statement} {rows : List Row}
  {group other : List TypedField × List Value}

/-! ### Answers -/

section

variable (formed : (answerTable database statement rows).WellFormed) (asked : statement.measures ≠ [])

include formed asked in
/-- A measure that is asked for tells how many rows there are. -/
theorem rowCount_answerTable :
    (answerTable database statement rows).rowCount = (shown statement rows).length := by
  obtain ⟨measure, listed⟩ := List.exists_mem_of_ne_nil _ asked
  rw [← formed.lengths _ (List.mem_append_right _ (List.mem_map_of_mem listed))]
  exact List.length_map _

theorem set_listed_of_shown {row : Nat} (here : row < (shown statement rows).length) :
    (shown statement rows)[row].1 ∈ statement.groupingSetList := by
  obtain ⟨set, member, keys⟩ := List.mem_flatMap.mp (mem_groups_of_shown here)
  obtain ⟨key, -, same⟩ := List.mem_map.mp keys
  rw [← same]
  exact member

include formed asked in
theorem answeredBySets (marking : database.groupingMarkers = true) :
    statement.AnsweredBySets ((shown statement rows).map Prod.fst)
      (answerTable database statement rows) where
  formed := Table.checkColumns_eq_ok.mpr formed
  named := by
    rw [← marking]
    exact names_eq rows
  rows := by rw [List.length_map, rowCount_answerTable formed asked]
  listed := by
    intro set listed
    obtain ⟨group, member, rfl⟩ := List.mem_map.mp listed
    obtain ⟨row, here, rfl⟩ := List.getElem_of_mem member
    exact set_listed_of_shown here
  flags := by
    intro field total row set at_row
    obtain ⟨marker, found, flags⟩ := find?_marker (formed_front formed) marking total
    refine ⟨marker, Table.column_eq_ok.mpr (Table.find?_extend_old found), ?_⟩
    rw [List.getElem?_map, Option.map_eq_some_iff] at at_row
    obtain ⟨group, at_row, rfl⟩ := at_row
    obtain ⟨here, rfl⟩ := List.getElem?_eq_some_iff.mp at_row
    rw [flags row here]
    split
    · exact .int rfl
    · exact .int rfl

/-! ### Totals -/

/-- A column without totals is in every grouping set. -/
theorem mem_of_plain {row : Nat} (here : row < (shown statement rows).length) {field : TypedField}
    (selected : field ∈ statement.select) (plain : field ∉ statement.totalColumns) :
    field ∈ (shown statement rows)[row].1 :=
  Statement.mem_of_mem_groupingSetList (set_listed_of_shown here) selected plain

/-- What is left of an answer once its totals are marked: the selected columns, where totals stand for what
the grouping set lacks, and the measures. -/
structure Marks (database : MemoryDatabase) (statement : Statement) (rows : List Row) (table : Table) :
    Prop where
  names : table.names = statement.select.map TypedField.name ++ statement.measures.map TypedMeasure.label
  cells : ∀ index (inside : index < statement.select.length), ∃ column,
    table.find? statement.select[index].name = some column ∧
      ∀ row (here : row < (shown statement rows).length), column.cell row =
        if statement.select[index] ∈ (shown statement rows)[row].1
        then (shown statement rows)[row].2[index]?.getD .null else .total

variable (checked : statement.check = .ok ())
  {table : Table} (run : (if statement.hasTotals then
    statement.markTotals database.groupingMarkers (answerTable database statement rows)
      else (answerTable database statement rows, .ok ())) = (table, .ok ()))

include formed asked checked run in
theorem marks_of_markers (marking : database.groupingMarkers = true)
    (apart : statement.MarkersApart true) (readable : statement.MarkersReadable true) :
    Marks database statement rows table := by
  have answer := answeredBySets formed asked marking
  obtain ⟨marked, ran, names, flagged, kept⟩ := answer.exists_marked checked apart (readable rfl)
  rw [marking] at run
  obtain rfl := (Prod.mk.inj (ran.symm.trans run)).1
  refine ⟨names, fun index inside => ?_⟩
  obtain ⟨column, found, length, cells⟩ := find?_selected (formed_front formed) inside
  have foundAll : (answerTable database statement rows).find? statement.select[index].name = some column :=
    Table.find?_extend_old found
  have selected := List.getElem_mem inside
  by_cases total : statement.select[index] ∈ statement.totalColumns
  · obtain ⟨flags, flagsFound, new⟩ := flagged _ (List.mem_map_of_mem total)
    rw [foundAll] at new
    refine ⟨_, new, fun row here => ?_⟩
    have at_row : ((shown statement rows).map Prod.fst)[row]? = some (shown statement rows)[row].1 := by
      rw [List.getElem?_map, List.getElem?_eq_getElem here]
      rfl
    rw [answer.cell_flagged total flagsFound foundAll at_row, cells row here]
  · have listed : statement.select[index].name ∈ marked.names :=
      names ▸ List.mem_append_left _ (List.mem_map_of_mem selected)
    refine ⟨column, ?_, fun row here => ?_⟩
    · rw [kept _ listed (plain_of_name (formed_front formed) checked selected total), foundAll]
    · rw [cells row here, if_pos (mem_of_plain here selected total)]

include formed checked run in
theorem marks_of_nulls (marking : database.groupingMarkers = false)
    (tell : TotalsTell database statement rows) : Marks database statement rows table := by
  have names : (answerTable database statement rows).names =
      statement.select.map TypedField.name ++ statement.measures.map TypedMeasure.label := by
    have all : (answerTable database statement rows).names =
        statement.columnNames database.groupingMarkers := names_eq rows
    unfold Statement.columnNames at all
    rwa [marking, if_neg Bool.false_ne_true, List.append_nil] at all
  -- Without totals there is nothing to mark, as there are no names to mark.
  have ran : (answerTable database statement rows).markNullTotals
      (statement.totalColumns.map TypedField.name) = (table, .ok ()) := by
    rw [marking] at run
    cases totals : statement.hasTotals with
    | true => rwa [totals, if_pos rfl] at run
    | false =>
      have none : statement.totalColumns = [] := by simpa [Statement.hasTotals] using totals
      rw [none]
      rwa [totals, if_neg Bool.false_ne_true] at run
  have among : statement.totalColumns.map TypedField.name ⊆ (answerTable database statement rows).names := by
    rw [names]
    exact fun name listed => List.mem_append_left _
      (List.map_subset _ (Statement.totalColumns_subset checked) listed)
  obtain ⟨next, again, -, sameNames⟩ := Table.markNullTotals_spec among
  obtain rfl := (Prod.mk.inj (again.symm.trans ran)).1
  refine ⟨sameNames.trans names, fun index inside => ?_⟩
  obtain ⟨column, found, length, cells⟩ := find?_selected (formed_front formed) inside
  have looked := Table.find?_markNullTotals ran statement.select[index].name
  rw [Table.find?_extend_old found] at looked
  have selected := List.getElem_mem inside
  by_cases total : statement.select[index] ∈ statement.totalColumns
  · rw [if_pos (List.mem_map_of_mem total)] at looked
    refine ⟨_, looked, fun row here => ?_⟩
    obtain ⟨source, sourceListed, key⟩ := key_cell (mem_groups_of_shown here) inside
    rw [Table.cell_nullsMarked (length ▸ here), cells row here, key,
      marked_null fun null => tell source sourceListed _ total (.inr ⟨marking, null⟩)]
    split <;> rfl
  · rw [if_neg (plain_of_name (formed_front formed) checked selected total)] at looked
    exact ⟨column, looked, fun row here => by
      rw [cells row here, if_pos (mem_of_plain here selected total)]⟩

end

/-! ### Rows -/

/-- The point of a group: its key, with totals in the columns that its grouping set lacks. -/
def pointOf (statement : Statement) (group : List TypedField × List Value) : List Value :=
  List.zipWith (fun field cell => if field ∈ group.1 then cell else .total) statement.select group.2

theorem pointOf_groupKey (statement : Statement) (set : List TypedField) (row : Row) :
    pointOf statement (set, statement.groupKey set row) = statement.pointIn set row := by
  unfold pointOf Statement.groupKey Statement.pointIn
  rw [List.zipWith_map_right, List.zipWith_self]
  refine List.map_congr_left fun field _ => ?_
  by_cases listed : field ∈ set <;> simp [listed]

/-- A table that has a row for each group that is shown. -/
structure Shows (statement : Statement) (rows : List Row) (table : Table) : Prop where
  formed : table.WellFormed
  groupingNames : table.groupingNames = statement.select.map TypedField.name
  points : table.rowIndices.map table.point = (shown statement rows).map (pointOf statement)
  measured : ∀ measure ∈ statement.measures,
    table.find? measure.label = some (measureColumn statement rows measure)

theorem Shows.rowCount_eq {table : Table} (shows : Shows statement rows table) :
    table.rowCount = (shown statement rows).length := by
  simpa [Table.rowIndices] using congrArg List.length shows.points

theorem Shows.point_eq {table : Table} (shows : Shows statement rows table) {row : Nat}
    (here : row < (shown statement rows).length) :
    table.point row = pointOf statement (shown statement rows)[row] := by
  have same := congrArg (·[row]?) shows.points
  unfold Table.rowIndices at same
  simpa [shows.rowCount_eq, here] using same

section

variable {table : Table} {front : List Column} (marks : Marks database statement rows table)
  (formed : table.WellFormed)
  (columns : table.columns = front ++ statement.measures.map (measureColumn statement rows))

include marks columns

theorem Marks.names_front : front.map Column.name = statement.select.map TypedField.name := by
  have all := marks.names
  unfold Table.names at all
  rw [columns, List.map_append, List.map_map] at all
  exact List.append_cancel_right all

include formed

theorem Marks.cells_front {row : Nat} (here : row < (shown statement rows).length) :
    Table.cells front row = pointOf statement (shown statement rows)[row] := by
  have names := marks.names_front columns
  have width : front.length = statement.select.length := by simpa using congrArg List.length names
  have key := length_key (mem_groups_of_shown here)
  unfold Table.cells pointOf
  refine List.ext_getElem (by simp [width, key]) fun index first _ => ?_
  rw [List.length_map] at first
  obtain ⟨column, found, cells⟩ := marks.cells index (width ▸ first)
  have name_eq : front[index].name = statement.select[index].name := by
    rw [← List.getElem_map Column.name (h := by simpa using first),
      ← List.getElem_map TypedField.name (h := by simpa using width ▸ first)]
    exact List.getElem_of_eq names _
  have listed : front[index] ∈ table.columns :=
    columns ▸ List.mem_append_left _ (List.getElem_mem first)
  obtain rfl : front[index] = column := Option.some.inj
    ((formed.find?_eq_some listed).symm.trans ((congrArg table.find? name_eq).trans found))
  have inside : index < (shown statement rows)[row].2.length := by rw [key, ← width]; exact first
  rw [List.getElem_map, List.getElem_zipWith, cells row here, List.getElem?_eq_getElem inside]
  rfl

theorem Marks.shows (grouping : table.groupingColumns = front) (asked : statement.measures ≠ []) :
    Shows statement rows table where
  formed := formed
  groupingNames := by
    unfold Table.groupingNames
    rw [grouping, marks.names_front columns]
  points := by
    have height : table.rowCount = (shown statement rows).length := by
      obtain ⟨measure, listed⟩ := List.exists_mem_of_ne_nil _ asked
      rw [← formed.lengths _ (columns ▸ List.mem_append_right _ (List.mem_map_of_mem listed))]
      exact List.length_map _
    unfold Table.rowIndices Table.point
    rw [height, grouping]
    refine List.ext_getElem (by simp) fun row first _ => ?_
    rw [List.getElem_map, List.getElem_map, List.getElem_range]
    exact marks.cells_front formed columns (by simpa using first)
  measured := by
    intro measure listed
    exact formed.find?_eq_some (columns ▸ List.mem_append_right _ (List.mem_map_of_mem listed) :
      measureColumn statement rows measure ∈ table.columns)

end

/-! ### Points tell groups -/

theorem nodup_eraseDups {α : Type} [BEq α] [LawfulBEq α] : (items : List α) → items.eraseDups.Nodup
  | [] => by simp
  | first :: rest => by
    have shorter := List.length_filter_le (fun item => !item == first) rest
    rw [List.eraseDups_cons, List.nodup_cons, List.mem_eraseDups]
    exact ⟨by simp, nodup_eraseDups _⟩
termination_by items => items.length

/-- With columns to group by, the keys are those of the rows, each once. -/
theorem groupKeys_perm (selects : statement.select ≠ []) (set : List TypedField) :
    (statement.groupKeys set rows).Perm (rows.map (statement.groupKey set)).eraseDups := by
  unfold Statement.groupKeys
  rw [if_neg fun empty => selects (List.isEmpty_iff.mp empty)]
  exact List.mergeSort_perm _ _

/-- Keys that are in order as they come. -/
theorem groupKeys_of_sorted {set : List TypedField} {keys : List (List Value)}
    (selects : statement.select.isEmpty = false)
    (unsorted : (rows.map (statement.groupKey set)).eraseDups = keys)
    (sorted : keys.Pairwise fun a b => (Value.compareItems a b != .gt) = true) :
    statement.groupKeys set rows = keys := by
  unfold Statement.groupKeys
  rw [selects, if_neg Bool.false_ne_true, unsorted]
  exact List.mergeSort_of_pairwise sorted

theorem mem_groupKeys_iff (selects : statement.select ≠ []) {set : List TypedField} {key : List Value} :
    key ∈ statement.groupKeys set rows ↔ ∃ row ∈ rows, statement.groupKey set row = key := by
  rw [(groupKeys_perm selects set).mem_iff, List.mem_eraseDups, List.mem_map]

theorem mem_groups_iff (selects : statement.select ≠ []) : group ∈ groups statement rows ↔
    group.1 ∈ statement.groupingSetList ∧ ∃ row ∈ rows, group.2 = statement.groupKey group.1 row := by
  refine ⟨fun listed => exists_row_of_group listed selects, ?_⟩
  rintro ⟨member, row, source, key⟩
  exact List.mem_flatMap.mpr ⟨group.1, member, List.mem_map.mpr
    ⟨group.2, (mem_groupKeys_iff selects).mpr ⟨row, source, key.symm⟩, rfl⟩⟩

/-- The points of the groups of one grouping set are those of the rows. -/
theorem mem_points_of_set_iff (selects : statement.select ≠ []) {set : List TypedField} {point : List Value} :
    point ∈ ((statement.groupKeys set rows).map fun key => pointOf statement (set, key)) ↔
      ∃ row ∈ rows, statement.pointIn set row = point := by
  rw [List.mem_map]
  constructor
  · rintro ⟨key, listed, rfl⟩
    obtain ⟨row, source, rfl⟩ := (mem_groupKeys_iff selects).mp listed
    exact ⟨row, source, (pointOf_groupKey statement set row).symm⟩
  · rintro ⟨row, source, rfl⟩
    exact ⟨_, (mem_groupKeys_iff selects).mpr ⟨row, source, rfl⟩, pointOf_groupKey statement set row⟩

theorem nodup_points_of_set (selects : statement.select ≠ []) (set : List TypedField) :
    ((statement.groupKeys set rows).map fun key => pointOf statement (set, key)).Nodup := by
  refine List.Nodup.map_on (fun key listed other otherListed same => ?_)
    ((groupKeys_perm selects set).nodup_iff.mpr (nodup_eraseDups _))
  obtain ⟨row, -, rfl⟩ := (mem_groupKeys_iff selects).mp listed
  obtain ⟨otherRow, -, rfl⟩ := (mem_groupKeys_iff selects).mp otherListed
  rw [pointOf_groupKey, pointOf_groupKey] at same
  exact Statement.groupKey_eq_of_pointIn same

/-- Set by set, the points of the groups. -/
theorem map_pointOf_groups (statement : Statement) (rows : List Row) :
    (groups statement rows).map (pointOf statement) = statement.groupingSetList.flatMap fun set =>
      (statement.groupKeys set rows).map fun key => pointOf statement (set, key) := by
  unfold groups
  rw [List.map_flatMap]
  simp only [List.map_map]
  rfl

theorem mem_points_iff (selects : statement.select ≠ []) {point : List Value} :
    point ∈ (groups statement rows).map (pointOf statement) ↔
      ∃ set ∈ statement.groupingSetList, ∃ row ∈ rows, statement.pointIn set row = point := by
  rw [map_pointOf_groups, List.mem_flatMap]
  exact exists_congr fun set => and_congr_right fun _ => mem_points_of_set_iff selects

/-- Two rows, each in a grouping set, where no column that one of the sets lacks has a value that is taken
for a total. -/
def TellApart (statement : Statement) (set : List TypedField) (row : Row) (other : List TypedField)
    (otherRow : Row) : Prop :=
  ∀ field ∈ statement.select, field ∈ set ∧ field ∈ other ∨
    row.read field ≠ .total ∧ otherRow.read field ≠ .total

/-- Columns without totals are to be in both sets. The totals may be those of a statement with more of them. -/
theorem tellApart_of_plain {around : Statement} {set other : List TypedField} {row otherRow : Row}
    (totals : TotalsTell database around rows) (source : row ∈ rows) (otherSource : otherRow ∈ rows)
    (plain : ∀ field ∈ statement.select, field ∉ around.totalColumns → field ∈ set ∧ field ∈ other) :
    TellApart statement set row other otherRow := by
  intro field selected
  by_cases total : field ∈ around.totalColumns
  · exact .inr ⟨fun same => totals row source field total (.inl same),
      fun same => totals otherRow otherSource field total (.inl same)⟩
  · exact .inl (plain field selected total)

theorem pointIn_eq_iff {set other : List TypedField} {row otherRow : Row}
    (tell : TellApart statement set row other otherRow) :
    statement.pointIn set row = statement.pointIn other otherRow ↔
      statement.SameSet set other ∧ statement.groupKey set row = statement.groupKey other otherRow := by
  unfold Statement.pointIn Statement.SameSet Statement.groupKey
  simp only [List.map_inj_left, ← forall₂_and, List.contains_iff_mem]
  refine forall₂_congr fun field selected => ?_
  rcases tell field selected with ⟨listed, otherListed⟩ | ⟨plain, otherPlain⟩
  · simp [listed, otherListed]
  · refine ⟨tells_of_marked plain otherPlain, fun ⟨sets, keys⟩ => ?_⟩
    by_cases listed : field ∈ set
    · simpa [listed, sets.mp listed] using keys
    · simp [listed, mt sets.mpr listed]

end MemoryDatabase

/-- An answer of the database in memory, from its groups. -/
theorem Engine.ofRows_answer {dialect : Dialect} {datastore : Datastore} {tables : List (String × List Row)}
    {statement : Statement} {table : Table} (rows : List Row) (unfiltered : statement.havingCriteria = none)
    (selected : (MemoryDatabase.ofRows dialect tables).selectedRows statement = .ok rows)
    (aggregates : MemoryDatabase.Aggregates statement rows)
    (columns : table.columns = MemoryDatabase.frontColumns (.ofRows dialect tables) statement rows ++
      statement.measures.map (MemoryDatabase.measureColumn statement rows))
    (formed : table.checkColumns = .ok ()) (number : Nat) :
    (Engine.ofRows dialect datastore tables).answer number statement = .ok table :=
  MemoryDatabase.answer_eq_ok.mpr ⟨unfiltered, rows, selected, aggregates,
    MemoryDatabase.ofRows_lines_eq_ok.mpr
      ⟨congrArg Table.mk columns, Table.checkColumns_eq_ok.mp formed⟩⟩

/-- What it takes that the rows of a result tell their groups: its markers can be told from its other columns,
and none of the values that it aggregates is taken for a total. -/
structure Engine.Tells (dialect : Dialect) (tables : List (String × List Row)) (statement : Statement)
    (rows : List Row) : Prop where
  apart : statement.MarkersApart dialect.groupingMarkers
  readable : statement.MarkersReadable dialect.groupingMarkers
  asked : statement.measures ≠ []
  selected : (MemoryDatabase.ofRows dialect tables).selectedRows statement = .ok rows
  totals : (MemoryDatabase.ofRows dialect tables).TotalsTell statement rows

/-- What is received of the database in memory shows the groups, unless a value of a column that has totals
is taken for a total. -/
theorem Engine.shows_of_receive {dialect : Dialect} {datastore : Datastore}
    {tables : List (String × List Row)} {statement : Statement} {rows : List Row}
    (checked : statement.check = .ok ()) (tells : Engine.Tells dialect tables statement rows) {number : Nat}
    {table : Table} (received : (Engine.ofRows dialect datastore tables).receive number statement = .ok table) :
    MemoryDatabase.Shows statement rows table := by
  obtain ⟨apart, readable, asked, selected, totals⟩ := tells
  have backend := Engine.columnwise_ofRows dialect datastore tables
  obtain ⟨raw, answered, run⟩ := Engine.receive_eq_ok.mp received
  have delivers := backend.delivers checked apart asked answered
  obtain rfl := Except.ok.inj ((delivers.received number).symm.trans received)
  obtain ⟨-, found, selectedAgain, -, made⟩ := MemoryDatabase.answer_eq_ok.mp answered
  obtain rfl := Except.ok.inj (selected.symm.trans selectedAgain)
  obtain ⟨rfl, formed⟩ := MemoryDatabase.ofRows_lines_eq_ok.mp made
  have marks : MemoryDatabase.Marks (.ofRows dialect tables) statement rows
      (Engine.delivered (.ofRows dialect datastore tables)
        (MemoryDatabase.frame (.ofRows dialect tables)) (MemoryDatabase.columnOf (.ofRows dialect tables))
          statement) := by
    cases marking : dialect.groupingMarkers with
    | true =>
      exact MemoryDatabase.marks_of_markers formed asked checked run marking (marking ▸ apart)
        (marking ▸ readable)
    | false => exact MemoryDatabase.marks_of_nulls formed checked run marking totals
  refine marks.shows delivers.formed ?_ delivers.groupingColumns_eq asked
  unfold Engine.delivered
  rw [MemoryDatabase.columnOf_core selected]

/-! ### What is sold -/

def soldMeasure : Measure := .aggregated "sold" (.ofName "quantity") "sum" none

def soldTyped : TypedMeasure := .aggregated "sold" (.column none "quantity" .long none) "sum" none

end CubeQuery
