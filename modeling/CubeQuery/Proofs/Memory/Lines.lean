import CubeQuery.Execution.Evaluation
import CubeQuery.Memory.Database
import CubeQuery.Proofs.Engine

/-! The lines of an answer of the database in memory: one for each group of each grouping set, with
the key of the group in front and a value for each measure behind. -/

namespace CubeQuery

open Steps

namespace MemoryDatabase

variable {database : MemoryDatabase} {statement : Statement} {rows : List Row}

theorem limited_map {α β : Type} (limit : Option Nat) (change : α → β) (lines : List α) :
    limited limit (lines.map change) = (limited limit lines).map change := by
  unfold limited
  split
  · rfl
  · rfl
  · exact List.map_take.symm

theorem limited_sublist {α : Type} (limit : Option Nat) (lines : List α) :
    (limited limit lines).Sublist lines := by
  unfold limited
  split
  · exact .refl _
  · exact .refl _
  · exact List.take_sublist _ _

/-- The groups of all grouping sets, each with its set, in the order of the lines. -/
def groups (statement : Statement) (rows : List Row) : List (List TypedField × List Value) :=
  statement.groupingSetList.flatMap fun set => (statement.groupKeys set rows).map (set, ·)

def members (statement : Statement) (rows : List Row) (group : List TypedField × List Value) : List Row :=
  rows.filter fun row => statement.groupKey group.1 row = group.2

/-- The cells of a line in front of its measures. -/
def front (database : MemoryDatabase) (statement : Statement) (group : List TypedField × List Value) :
    List Value :=
  group.2 ++ if database.groupingMarkers then statement.markerCells group.1 else []

/-- The value of a measure for a group, null if there is none. -/
def valueOf (statement : Statement) (rows : List Row) (measure : TypedMeasure)
    (group : List TypedField × List Value) : Value :=
  match measure.aggregate (members statement rows group) with
  | .ok value => value
  | .error _ => .null

def line (database : MemoryDatabase) (statement : Statement) (rows : List Row)
    (group : List TypedField × List Value) : List Value :=
  front database statement group ++
    statement.measures.map fun measure => valueOf statement rows measure group

/-- Every measure has a value for every group. -/
def Aggregates (statement : Statement) (rows : List Row) : Prop :=
  ∀ group ∈ groups statement rows, ∀ measure ∈ statement.measures,
    ∃ value, measure.aggregate (members statement rows group) = .ok value

/-- The rows that a statement aggregates. -/
def selectedRows (database : MemoryDatabase) (statement : Statement) : Except QueryError (List Row) := do
  TypedCriteria.select statement.whereCriteria (← database.sourceRows statement)

theorem groupLine_eq_ok {set : List TypedField} {key cells : List Value} :
    database.groupLine statement set rows key = .ok cells ↔
      (∀ measure ∈ statement.measures, ∃ value,
        measure.aggregate (members statement rows (set, key)) = .ok value) ∧
      cells = line database statement rows (set, key) := by
  have aggregated {values : List Value} (ran : statement.measures.mapM
      (TypedMeasure.aggregate (members statement rows (set, key))) = .ok values) :
      values = statement.measures.map fun measure => valueOf statement rows measure (set, key) := by
    have same : values.map id = statement.measures.map fun measure =>
        valueOf statement rows measure (set, key) := by
      refine map_eq_of_mapM ran fun measure _ value _ got => ?_
      unfold valueOf
      rw [got]
      rfl
    rwa [List.map_id] at same
  unfold groupLine
  constructor
  · intro ran
    obtain ⟨values, ran, cells_eq⟩ := bind_eq_ok.mp ran
    refine ⟨fun measure listed => ?_, ?_⟩
    · obtain ⟨value, -, got⟩ := mem_of_mapM ran listed
      exact ⟨value, got⟩
    · rw [← Except.ok.inj cells_eq, aggregated ran]
      rfl
  · rintro ⟨each, rfl⟩
    obtain ⟨values, ran⟩ := exists_mapM each
    refine bind_eq_ok.mpr ⟨values, ran, ?_⟩
    rw [aggregated ran]
    rfl

theorem setLines_eq_ok {set : List TypedField} {lines : List (List Value)} :
    database.setLines statement rows set = .ok lines ↔
      (∀ key ∈ statement.groupKeys set rows, ∀ measure ∈ statement.measures, ∃ value,
        measure.aggregate (members statement rows (set, key)) = .ok value) ∧
      lines = (statement.groupKeys set rows).map fun key => line database statement rows (set, key) := by
  unfold setLines
  constructor
  · intro ran
    refine ⟨fun key listed => ?_, ?_⟩
    · obtain ⟨cells, -, got⟩ := mem_of_mapM ran listed
      exact (groupLine_eq_ok.mp got).1
    · have same : lines.map id = (statement.groupKeys set rows).map fun key =>
          line database statement rows (set, key) :=
        map_eq_of_mapM ran fun key _ cells _ got => (groupLine_eq_ok.mp got).2
      rwa [List.map_id] at same
  · rintro ⟨each, rfl⟩
    rw [mapM_eq_ok, List.forall₂_map_right_iff, List.forall₂_same]
    exact fun key listed => groupLine_eq_ok.mpr ⟨each key listed, rfl⟩

theorem allLines_eq_ok {lines : List (List (List Value))} :
    statement.groupingSetList.mapM (database.setLines statement rows) = .ok lines ↔
      Aggregates statement rows ∧ lines = statement.groupingSetList.map fun set =>
        (statement.groupKeys set rows).map fun key => line database statement rows (set, key) := by
  constructor
  · intro ran
    refine ⟨?_, ?_⟩
    · intro group listed
      obtain ⟨set, member, keys⟩ := List.mem_flatMap.mp listed
      obtain ⟨key, keyListed, rfl⟩ := List.mem_map.mp keys
      obtain ⟨setLines, -, got⟩ := mem_of_mapM ran member
      exact (setLines_eq_ok.mp got).1 key keyListed
    · have same : lines.map id = statement.groupingSetList.map fun set =>
          (statement.groupKeys set rows).map fun key => line database statement rows (set, key) :=
        map_eq_of_mapM ran fun set _ cells _ got => (setLines_eq_ok.mp got).2
      rwa [List.map_id] at same
  · rintro ⟨each, rfl⟩
    rw [mapM_eq_ok, List.forall₂_map_right_iff, List.forall₂_same]
    refine fun set listed => setLines_eq_ok.mpr ⟨fun key keyListed => ?_, rfl⟩
    exact each (set, key) (List.mem_flatMap.mpr ⟨set, listed, List.mem_map_of_mem keyListed⟩)

/-- The lines of an answer. -/
def lines (database : MemoryDatabase) (statement : Statement) (rows : List Row) : List (List Value) :=
  (limited statement.limit (groups statement rows)).map (line database statement rows)

/-- What it takes to answer a statement, and what is answered. -/
theorem answer_eq_ok {table : Table} : database.answer statement = .ok table ↔
    statement.havingCriteria = none ∧ ∃ rows, database.selectedRows statement = .ok rows ∧
      Aggregates statement rows ∧ Table.ofRows (database.headers statement
        (database.lines statement rows)) (database.lines statement rows) = .ok table := by
  have flat (rows : List Row) : (statement.groupingSetList.map fun set =>
      (statement.groupKeys set rows).map fun key => line database statement rows (set, key)).flatten =
        (groups statement rows).map (line database statement rows) := by
    unfold groups
    rw [List.map_flatMap, ← List.flatMap_def]
    refine congrArg statement.groupingSetList.flatMap (funext fun set => ?_)
    rw [List.map_map]
    rfl
  unfold answer selectedRows
  cases having : statement.havingCriteria with
  | some criteria => simp
  | none =>
    simp only [Option.isSome_none, Bool.false_eq_true, if_false, true_and]
    constructor
    · intro answered
      obtain ⟨source, source_eq, answered⟩ := bind_eq_ok.mp answered
      obtain ⟨rows, rows_eq, answered⟩ := bind_eq_ok.mp answered
      obtain ⟨all, all_eq, answered⟩ := bind_eq_ok.mp answered
      obtain ⟨each, rfl⟩ := allLines_eq_ok.mp all_eq
      rw [flat, limited_map] at answered
      exact ⟨rows, bind_eq_ok.mpr ⟨source, source_eq, rows_eq⟩, each, mapError_eq_ok.mp answered⟩
    · rintro ⟨rows, selected, each, made⟩
      obtain ⟨source, source_eq, rows_eq⟩ := bind_eq_ok.mp selected
      refine bind_eq_ok.mpr ⟨source, source_eq, bind_eq_ok.mpr ⟨rows, rows_eq, bind_eq_ok.mpr
        ⟨_, allLines_eq_ok.mpr ⟨each, rfl⟩, ?_⟩⟩⟩
      rw [flat, limited_map]
      exact mapError_eq_ok.mpr made

/-! ### Columns -/

theorem length_key {group : List TypedField × List Value} (listed : group ∈ groups statement rows) :
    group.2.length = statement.select.length := by
  obtain ⟨set, -, keys⟩ := List.mem_flatMap.mp listed
  obtain ⟨key, keyListed, rfl⟩ := List.mem_map.mp keys
  unfold Statement.groupKeys at keyListed
  split at keyListed
  · next none =>
    rw [List.mem_singleton.mp keyListed, List.isEmpty_iff.mp none]
    rfl
  · obtain ⟨row, -, rfl⟩ := List.mem_map.mp
      (List.mem_eraseDups.mp ((List.mergeSort_perm _ _).subset keyListed))
    exact List.length_map _

theorem length_front {group : List TypedField × List Value} (listed : group ∈ groups statement rows) :
    (front database statement group).length = statement.select.length +
      if database.groupingMarkers then statement.totalColumns.length else 0 := by
  unfold front Statement.markerCells
  rw [List.length_append, length_key listed]
  split
  · rw [List.length_map]
  · rfl

/-- The headers in front of the measures. -/
def frontHeaders (database : MemoryDatabase) (statement : Statement) : List Header :=
  (statement.select.map fun field => Header.grouping field.name field.type) ++
    if database.groupingMarkers then
      statement.totalColumns.map fun field => Header.grouping (GroupingMarker.label field.name) .long
    else []

theorem length_frontHeaders (database : MemoryDatabase) (statement : Statement) :
    (frontHeaders database statement).length = statement.select.length +
      if database.groupingMarkers then statement.totalColumns.length else 0 := by
  unfold frontHeaders
  rw [List.length_append, List.length_map]
  split
  · rw [List.length_map]
  · rfl

theorem length_shown (database : MemoryDatabase) {group : List TypedField × List Value}
    (shown : group ∈ limited statement.limit (groups statement rows)) :
    (front database statement group).length = (frontHeaders database statement).length := by
  rw [length_front ((limited_sublist _ _).subset shown), length_frontHeaders]

/-- The columns in front of the measures, of the groups that an answer shows. -/
def frontColumns (database : MemoryDatabase) (statement : Statement) (rows : List Row) : List Column :=
  List.zipWith Column.mk (frontHeaders database statement)
    ((List.range (frontHeaders database statement).length).map fun index =>
      (limited statement.limit (groups statement rows)).map fun group =>
        (front database statement group)[index]?.getD .null)

/-- The column of a measure. -/
def measureColumn (statement : Statement) (rows : List Row) (measure : TypedMeasure) : Column :=
  let values := (limited statement.limit (groups statement rows)).map (valueOf statement rows measure)
  ⟨.measure measure.label (inferredType values), values⟩

theorem headers_eq (statement : Statement) (rows : List Row) :
    database.headers statement (database.lines statement rows) = frontHeaders database statement ++
      statement.measures.map fun measure => (measureColumn statement rows measure).header := by
  have values_eq (index : Nat) (inside : index < statement.measures.length) :
      (database.lines statement rows).filterMap
        (·[(frontHeaders database statement).length + index]?) =
      (measureColumn statement rows statement.measures[index]).values := by
    unfold lines
    rw [List.filterMap_map]
    calc (limited statement.limit (groups statement rows)).filterMap _
      _ = (limited statement.limit (groups statement rows)).filterMap
          (some ∘ valueOf statement rows statement.measures[index]) := by
        refine List.filterMap_congr fun group listed => ?_
        simp only [Function.comp_apply, line]
        rw [← length_shown database listed, List.getElem?_append_right (Nat.le_add_right _ _),
          Nat.add_sub_cancel_left]
        simp [inside]
      _ = (measureColumn statement rows statement.measures[index]).values := by
        rw [List.filterMap_eq_map]
        rfl
  unfold MemoryDatabase.headers
  rw [show (frontHeaders database statement) = _ from rfl] at values_eq ⊢
  refine congrArg₂ (· ++ ·) rfl (List.ext_getElem (by simp) fun index inside _ => ?_)
  have below : index < statement.measures.length := by simpa using inside
  rw [List.getElem_mapIdx, List.getElem_map]
  have type_eq := congrArg inferredType (values_eq index below)
  unfold frontHeaders at type_eq
  rw [List.length_append] at type_eq
  exact congrArg (Header.measure _) type_eq

/-- The table of an answer, if its names are distinct. -/
theorem ofRows_lines_eq_ok {table : Table} :
    Table.ofRows (database.headers statement (database.lines statement rows))
        (database.lines statement rows) = .ok table ↔
      table = ⟨frontColumns database statement rows ++
        statement.measures.map (measureColumn statement rows)⟩ ∧ table.WellFormed := by
  have columns_eq : List.zipWith Column.mk (database.headers statement (database.lines statement rows))
      ((List.range (database.headers statement (database.lines statement rows)).length).map fun index =>
        (database.lines statement rows).map fun row => row[index]?.getD .null) =
      frontColumns database statement rows ++ statement.measures.map (measureColumn statement rows) := by
    rw [headers_eq, List.length_append, List.range_add, List.map_append, List.length_map,
      List.zipWith_append (by simp)]
    refine congrArg₂ (· ++ ·) ?_ ?_
    · refine congrArg (List.zipWith Column.mk _) (List.map_congr_left fun index listed => ?_)
      have below := List.mem_range.mp listed
      unfold lines
      rw [List.map_map]
      refine List.map_congr_left fun group shown => ?_
      have length := length_shown database shown
      simp only [Function.comp_apply, line]
      rw [List.getElem?_append_left (by omega)]
    · refine List.ext_getElem (by simp) fun index inside _ => ?_
      have below : index < statement.measures.length := by simpa using inside
      simp only [List.getElem_zipWith, List.getElem_map, List.getElem_range]
      refine congrArg (Column.mk _) ?_
      unfold lines measureColumn
      rw [List.map_map]
      refine List.map_congr_left fun group shown => ?_
      simp only [Function.comp_apply, line]
      rw [← length_shown database shown,
        List.getElem?_append_right (Nat.le_add_right _ _), Nat.add_sub_cancel_left]
      simp [below]
  have lengths : ∀ row ∈ database.lines statement rows,
      row.length = (database.headers statement (database.lines statement rows)).length := by
    intro row listed
    obtain ⟨group, shown, rfl⟩ := List.mem_map.mp listed
    rw [headers_eq, List.length_append, List.length_map, ← length_shown database shown]
    unfold line
    rw [List.length_append, List.length_map]
  rw [Table.ofRows_eq_ok, columns_eq]
  exact ⟨fun made => made.2, fun made => ⟨lengths, made⟩⟩

theorem headers_frontColumns (rows : List Row) :
    (frontColumns database statement rows).map Column.header = frontHeaders database statement := by
  unfold frontColumns
  refine List.ext_getElem (by simp) fun index _ _ => ?_
  simp

theorem mem_frontColumns {column : Column} (listed : column ∈ frontColumns database statement rows) :
    column.header.isMeasure = false := by
  have header : column.header ∈ frontHeaders database statement := by
    rw [← headers_frontColumns rows]
    exact List.mem_map_of_mem listed
  unfold frontHeaders at header
  rcases List.mem_append.mp header with selected | marker
  · obtain ⟨field, -, same⟩ := List.mem_map.mp selected
    exact congrArg Header.isMeasure same.symm
  · split at marker
    · obtain ⟨field, -, same⟩ := List.mem_map.mp marker
      exact congrArg Header.isMeasure same.symm
    · cases marker

theorem names_frontColumns (rows : List Row) :
    (frontColumns database statement rows).map Column.name = statement.select.map TypedField.name ++
      if database.groupingMarkers then
        statement.totalColumns.map fun field => GroupingMarker.label field.name else [] := by
  have front_eq : (frontColumns database statement rows).map Column.name =
      (frontHeaders database statement).map Header.name := by
    rw [← headers_frontColumns rows, List.map_map]
    rfl
  rw [front_eq]
  unfold frontHeaders
  rw [List.map_append, List.map_map]
  split
  · rw [List.map_map]
    rfl
  · rfl

theorem names_eq (rows : List Row) :
    (frontColumns database statement rows ++ statement.measures.map (measureColumn statement rows)).map
      Column.name = statement.columnNames database.groupingMarkers := by
  rw [List.map_append, names_frontColumns, List.map_map]
  rfl

/-- Every column has a cell for each group that is shown. -/
theorem lengths_columns (measures : List TypedMeasure) :
    ∀ column ∈ frontColumns database statement rows ++ measures.map (measureColumn statement rows),
      column.values.length = (limited statement.limit (groups statement rows)).length := by
  intro column listed
  rcases List.mem_append.mp listed with front | measure
  · obtain ⟨index, inside, rfl⟩ := List.getElem_of_mem front
    simp [frontColumns]
  · obtain ⟨measure, -, rfl⟩ := List.mem_map.mp measure
    exact List.length_map _

/-- The columns in front of the measures in any answer to a statement with this core. -/
def frame (database : MemoryDatabase) (core : Statement) : List Column :=
  match database.selectedRows core with
  | .ok rows => frontColumns database core rows
  | .error _ => []

/-- The column of a measure in any answer to a statement with this core. -/
def columnOf (database : MemoryDatabase) (core : Statement) (measure : TypedMeasure) : Column :=
  match database.selectedRows core with
  | .ok rows => measureColumn core rows measure
  | .error _ => measureColumn core [] measure

theorem frame_core (selected : database.selectedRows statement = .ok rows) :
    database.frame statement.core = frontColumns database statement rows := by
  have core : database.selectedRows statement.core = .ok rows := selected
  unfold frame
  rw [core]
  rfl

theorem columnOf_core (selected : database.selectedRows statement = .ok rows) :
    database.columnOf statement.core = measureColumn statement rows := by
  have core : database.selectedRows statement.core = .ok rows := selected
  unfold columnOf
  rw [core]
  rfl

theorem answer_spec {table : Table} (answered : database.answer statement = .ok table) :
    table.columns = database.frame statement.core ++
        statement.measures.map (database.columnOf statement.core) ∧
      table.names = statement.columnNames database.groupingMarkers ∧ table.WellFormed := by
  obtain ⟨-, rows, selected, -, made⟩ := answer_eq_ok.mp answered
  obtain ⟨rfl, formed⟩ := ofRows_lines_eq_ok.mp made
  refine ⟨?_, names_eq rows, formed⟩
  rw [frame_core selected, columnOf_core selected]

/-- What is answered for measures is answered for some of them. -/
theorem answer_some {table : Table} (answered : database.answer statement = .ok table)
    {measures : List TypedMeasure} (fewer : measures.Sublist statement.measures) :
    ∃ smaller, database.answer (statement.withMeasures measures) = .ok smaller := by
  obtain ⟨unfiltered, rows, selected, each, made⟩ := answer_eq_ok.mp answered
  obtain ⟨rfl, formed⟩ := ofRows_lines_eq_ok.mp made
  refine ⟨⟨frontColumns database statement rows ++ measures.map (measureColumn statement rows)⟩,
    answer_eq_ok.mpr ⟨unfiltered, rows, selected, fun group listed measure asked =>
      each group listed measure (fewer.subset asked), ofRows_lines_eq_ok.mpr ⟨rfl, ?_, ?_⟩⟩⟩
  · exact Table.lengths_of_uniform (lengths_columns measures)
  · exact formed.distinct.sublist (((List.Sublist.refl _).append (fewer.map _)).map _)

end MemoryDatabase

/-- The database in memory answers column by column. -/
theorem Engine.columnwise_ofRows (dialect : Dialect) (datastore : Datastore)
    (tables : List (String × List Row)) :
    (Engine.ofRows dialect datastore tables).Columnwise
      (MemoryDatabase.frame ⟨tables, dialect.groupingMarkers⟩)
      (MemoryDatabase.columnOf ⟨tables, dialect.groupingMarkers⟩) where
  formed answered := Table.checkColumns_eq_ok.mpr (MemoryDatabase.answer_spec answered).2.2
  named answered := (MemoryDatabase.answer_spec answered).2.1
  columns answered := (MemoryDatabase.answer_spec answered).1
  grouping statement column listed := by
    unfold MemoryDatabase.frame at listed
    split at listed
    · exact MemoryDatabase.mem_frontColumns listed
    · cases listed
  measure statement measure := by
    unfold MemoryDatabase.columnOf
    split <;> rfl
  again answered _ _ _ fewer := MemoryDatabase.answer_some answered fewer

end CubeQuery
