import CubeQuery.Engine
import CubeQuery.Proofs.Execution.Totals
import CubeQuery.Proofs.Sql.Writing

/-! Engines over a database that answers column by column. The columns in front of the measures depend
on the statement without its measures, the column of a measure on that and on the measure. What such
an engine receives for some of the measures is what it receives for all of them, without the rest. -/

namespace CubeQuery

open Steps

namespace Statement

def withMeasures (statement : Statement) (measures : List TypedMeasure) : Statement :=
  { statement with measures }

/-- The statement without its measures. -/
def core (statement : Statement) : Statement := statement.withMeasures []

variable {statement : Statement} {measures : List TypedMeasure}

@[simp] theorem withMeasures_self (statement : Statement) :
    statement.withMeasures statement.measures = statement := by
  cases statement
  rfl

@[simp] theorem withMeasures_withMeasures (statement : Statement) (first second : List TypedMeasure) :
    (statement.withMeasures first).withMeasures second = statement.withMeasures second := rfl

@[simp] theorem core_withMeasures (statement : Statement) (measures : List TypedMeasure) :
    (statement.withMeasures measures).core = statement.core := rfl

@[simp] theorem measures_withMeasures (statement : Statement) (measures : List TypedMeasure) :
    (statement.withMeasures measures).measures = measures := rfl

@[simp] theorem select_withMeasures (statement : Statement) (measures : List TypedMeasure) :
    (statement.withMeasures measures).select = statement.select := rfl

@[simp] theorem totalColumns_withMeasures (statement : Statement) (measures : List TypedMeasure) :
    (statement.withMeasures measures).totalColumns = statement.totalColumns := rfl

@[simp] theorem hasTotals_withMeasures (statement : Statement) (measures : List TypedMeasure) :
    (statement.withMeasures measures).hasTotals = statement.hasTotals := rfl

@[simp] theorem check_withMeasures (statement : Statement) (measures : List TypedMeasure) :
    (statement.withMeasures measures).check = statement.check := rfl

theorem physicalTables_withMeasures (statement : Statement) (measures : List TypedMeasure) :
    (statement.withMeasures measures).physicalTables = statement.physicalTables := by
  obtain ⟨table, subQuery, virtualTables, select, rollup, groupingSets, all, whereCriteria,
    havingCriteria, limit⟩ := statement
  cases subQuery <;> rfl

theorem Writable.withMeasures {dialect : Dialect} (writable : statement.Writable dialect)
    (fewer : measures ⊆ statement.measures) : (statement.withMeasures measures).Writable dialect :=
  { writable with measured := fun measure listed => writable.measured measure (fewer listed) }

/-- In a result whose totals have markers no other column is named like one. -/
def MarkersApart (statement : Statement) (groupingMarkers : Bool) : Prop :=
  groupingMarkers = true → statement.hasTotals = true →
    ∀ name ∈ statement.select.map TypedField.name ++ statement.measures.map TypedMeasure.label,
      GroupingMarker.isMarker name = false

theorem MarkersApart.withMeasures {groupingMarkers : Bool} (apart : statement.MarkersApart groupingMarkers)
    (fewer : measures ⊆ statement.measures) :
    (statement.withMeasures measures).MarkersApart groupingMarkers := by
  intro marking totals name listed
  refine apart marking totals name ?_
  rcases List.mem_append.mp listed with selected | measured
  · exact List.mem_append_left _ selected
  · exact List.mem_append_right _ (List.map_subset _ fewer measured)

/-- Totals can be marked in a table that has the selected columns, and else markers of totals and measures. -/
theorem exists_markTotals {groupingMarkers : Bool} {table : Table} (checked : statement.check = .ok ())
    (apart : statement.MarkersApart groupingMarkers) (totals : statement.hasTotals = true)
    (distinct : table.names.Nodup) (selected : statement.select.map TypedField.name ⊆ table.names)
    (named : table.names ⊆ statement.columnNames groupingMarkers) :
    ∃ next, statement.markTotals groupingMarkers table = (next, .ok ()) ∧ Table.MarkedFrom table next ∧
      statement.select.map TypedField.name ⊆ next.names := by
  have among := List.map_subset TypedField.name (totalColumns_subset checked)
  have plain : groupingMarkers = true → ∀ name ∈ statement.select.map TypedField.name,
      GroupingMarker.isMarker name = false :=
    fun marking name listed => apart marking totals name (List.mem_append_left _ listed)
  have markers : groupingMarkers = true → ∀ name ∈ table.names, GroupingMarker.isMarker name = true →
      ∃ field ∈ statement.totalColumns.map TypedField.name,
        name = GroupingMarker.label field ∧ GroupingMarker.isMarker field = false := by
    intro marking name listed isMarker
    have column := named listed
    unfold columnNames at column
    rw [if_pos marking] at column
    rcases List.mem_append.mp column with front | measured
    · rcases List.mem_append.mp front with own | marker
      · rw [plain marking name own] at isMarker
        cases isMarker
      · obtain ⟨field, total, rfl⟩ := List.mem_map.mp marker
        have shown := List.mem_map_of_mem (f := TypedField.name) total
        exact ⟨field.name, shown, rfl, plain marking field.name (among shown)⟩
    · rw [apart marking totals name (List.mem_append_right _ measured)] at isMarker
      cases isMarker
  obtain ⟨next, marked, markedFrom, kept⟩ :=
    Table.markTotals_spec distinct (List.Subset.trans among selected) markers
  exact ⟨next, marked, markedFrom,
    fun name listed => kept name (selected listed) fun marking => plain marking name listed⟩

end Statement

namespace Engine

theorem sql_withMeasures {engine : Engine} {statement : Statement} {measures : List TypedMeasure} {text : String}
    (written : engine.sql statement = .ok text) (fewer : measures.Sublist statement.measures) :
    ∃ other, engine.sql (statement.withMeasures measures) = .ok other := by
  unfold Engine.sql at written ⊢
  rw [Statement.physicalTables_withMeasures]
  split at written
  · cases written
  · have writable := Statement.exists_sql_iff.mp ⟨text, written⟩
    exact Statement.exists_sql_iff.mpr (writable.withMeasures fewer.subset)

theorem check_of_sql {engine : Engine} {statement : Statement} {text : String} (written : engine.sql statement = .ok text) :
    statement.check = .ok () := by
  unfold Engine.sql at written
  split at written
  · cases written
  · exact (Statement.exists_sql_iff.mp ⟨text, written⟩).checked

/-- What a database is trusted with. Its answers are tables with the columns that are asked for, the
measures last. The others depend on the statement without its measures; the column of a measure
depends on that and on the measure; and what was answered once is answered again, also for some of
the measures. -/
structure Columnwise (engine : Engine) (frame : Statement → List Column)
    (column : Statement → TypedMeasure → Column) : Prop where
  formed : ∀ {number statement table}, engine.answer number statement = .ok table →
    table.checkColumns = .ok ()
  named : ∀ {number statement table}, engine.answer number statement = .ok table →
    table.names = statement.columnNames engine.dialect.groupingMarkers
  columns : ∀ {number statement table}, engine.answer number statement = .ok table →
    table.columns = frame statement.core ++ statement.measures.map (column statement.core)
  grouping : ∀ statement, ∀ column ∈ frame statement, column.header.isMeasure = false
  measure : ∀ statement measure, (column statement measure).header.isMeasure = true
  again : ∀ {number statement table}, engine.answer number statement = .ok table →
    ∀ other measures, measures ≠ [] → measures.Sublist statement.measures →
      ∃ smaller, engine.answer other (statement.withMeasures measures) = .ok smaller

/-- The columns in front of the measures, once totals are marked. -/
def framed (engine : Engine) (frame : Statement → List Column) (statement : Statement) : List Column :=
  if statement.hasTotals then
    (statement.markTotals engine.dialect.groupingMarkers ⟨frame statement⟩).1.columns
  else frame statement

/-- The table of a statement, with its totals marked. -/
def delivered (engine : Engine) (frame : Statement → List Column)
    (column : Statement → TypedMeasure → Column) (statement : Statement) : Table :=
  ⟨engine.framed frame statement.core ++ statement.measures.map (column statement.core)⟩

variable {engine : Engine} {frame : Statement → List Column}
  {column : Statement → TypedMeasure → Column}

theorem Columnwise.names (backend : engine.Columnwise frame column) {number : Nat}
    {statement : Statement} {table : Table} (answered : engine.answer number statement = .ok table) :
    (frame statement.core).map Column.name = statement.select.map TypedField.name ++
        (if engine.dialect.groupingMarkers then
          statement.totalColumns.map fun field => GroupingMarker.label field.name else []) ∧
      ∀ measure ∈ statement.measures, (column statement.core measure).name = measure.label := by
  have named := backend.named answered
  unfold Table.names Statement.columnNames at named
  rw [backend.columns answered, List.map_append, List.map_map] at named
  obtain ⟨front, back⟩ := List.append_inj' named (by rw [List.length_map, List.length_map])
  exact ⟨front, List.map_inj_left.mp back⟩

/-- The front of an answer can be marked, and its selected columns stay. -/
theorem Columnwise.framed_spec (backend : engine.Columnwise frame column) {number : Nat}
    {statement : Statement} {table : Table} (checked : statement.check = .ok ())
    (apart : statement.MarkersApart engine.dialect.groupingMarkers)
    (answered : engine.answer number statement = .ok table) :
    Table.MarkedFrom ⟨frame statement.core⟩ ⟨engine.framed frame statement.core⟩ ∧
      (∀ field ∈ statement.select,
        field.name ∈ (⟨engine.framed frame statement.core⟩ : Table).names) ∧
      (statement.hasTotals = true →
        statement.markTotals engine.dialect.groupingMarkers ⟨frame statement.core⟩ =
          (⟨engine.framed frame statement.core⟩, .ok ())) := by
  obtain ⟨frameNames, -⟩ := backend.names answered
  have selected : ∀ field ∈ statement.select, field.name ∈ (⟨frame statement.core⟩ : Table).names := by
    intro field listed
    unfold Table.names
    rw [frameNames]
    exact List.mem_append_left _ (List.mem_map_of_mem listed)
  cases totals : statement.hasTotals with
  | false =>
    have same : engine.framed frame statement.core = frame statement.core :=
      if_neg (Bool.eq_false_iff.mp totals)
    rw [same]
    exact ⟨.refl _, selected, nofun⟩
  | true =>
    have distinct : (⟨frame statement.core⟩ : Table).names.Nodup := by
      have all := (Table.checkColumns_eq_ok.mp (backend.formed answered)).distinct
      unfold Table.names at all
      rw [backend.columns answered, List.map_append] at all
      exact all.of_append_left
    have present : statement.select.map TypedField.name ⊆ (⟨frame statement.core⟩ : Table).names :=
      List.forall_mem_map.mpr selected
    have named : (⟨frame statement.core⟩ : Table).names ⊆ statement.columnNames engine.dialect.groupingMarkers := by
      unfold Table.names Statement.columnNames
      rw [frameNames]
      exact List.subset_append_left _ _
    obtain ⟨next, marked, markedFrom, kept⟩ :=
      Statement.exists_markTotals checked apart totals distinct present named
    have same : engine.framed frame statement.core = next.columns := by
      unfold framed
      rw [if_pos (show statement.core.hasTotals = true from totals)]
      exact congrArg (fun result => result.1.columns) marked
    rw [same]
    exact ⟨markedFrom, fun field listed => kept (List.mem_map_of_mem listed), fun _ => marked⟩

/-- What is received for a statement. -/
structure Delivers (engine : Engine) (frame : Statement → List Column)
    (column : Statement → TypedMeasure → Column) (statement : Statement) : Prop where
  received : ∀ number, engine.receive number statement = .ok (engine.delivered frame column statement)
  formed : (engine.delivered frame column statement).WellFormed
  grouping : ∀ column ∈ engine.framed frame statement.core, column.header.isMeasure = false
  measures : ∀ measure ∈ statement.measures,
    (column statement.core measure).header.isMeasure = true ∧
      (column statement.core measure).name = measure.label
  framed_eq_nil : engine.framed frame statement.core = [] ↔ statement.select = []

theorem Columnwise.receive_eq (backend : engine.Columnwise frame column) {number : Nat}
    {statement : Statement} {table : Table} (checked : statement.check = .ok ())
    (apart : statement.MarkersApart engine.dialect.groupingMarkers)
    (answered : engine.answer number statement = .ok table) :
    engine.receive number statement = .ok (engine.delivered frame column statement) := by
  obtain ⟨-, -, marked⟩ := backend.framed_spec checked apart answered
  obtain ⟨-, labels⟩ := backend.names answered
  have table_eq : table = (⟨frame statement.core⟩ : Table).extend
      (statement.measures.map (column statement.core)) :=
    congrArg Table.mk (backend.columns answered)
  unfold receive
  rw [answered, ok_bind]
  cases totals : statement.hasTotals with
  | false =>
    rw [if_neg Bool.false_ne_true, table_eq]
    unfold delivered framed
    rw [if_neg (show ¬statement.core.hasTotals = true from Bool.eq_false_iff.mp totals)]
    rfl
  | true =>
    have unmarked : engine.dialect.groupingMarkers = true →
        ∀ added ∈ statement.measures.map (column statement.core),
          GroupingMarker.isMarker added.name = false := by
      intro marking added listed
      obtain ⟨measure, member, rfl⟩ := List.mem_map.mp listed
      rw [labels measure member]
      exact apart marking totals _ (List.mem_append_right _ (List.mem_map_of_mem member))
    have whole : statement.markTotals engine.dialect.groupingMarkers table =
        (engine.delivered frame column statement, .ok ()) := by
      rw [table_eq]
      exact Table.markTotals_extend unmarked (marked totals)
    rw [if_pos rfl]
    simp only [whole]
    rfl

theorem Columnwise.delivers (backend : engine.Columnwise frame column) {number : Nat}
    {statement : Statement} {table : Table} (checked : statement.check = .ok ())
    (apart : statement.MarkersApart engine.dialect.groupingMarkers) (asked : statement.measures ≠ [])
    (answered : engine.answer number statement = .ok table) :
    engine.Delivers frame column statement where
  received := by
    intro other
    obtain ⟨again, answeredAgain⟩ := backend.again answered other statement.measures asked (.refl _)
    rw [Statement.withMeasures_self] at answeredAgain
    exact backend.receive_eq checked apart answeredAgain
  formed := by
    obtain ⟨markedFrom, -, -⟩ := backend.framed_spec checked apart answered
    have formed := Table.checkColumns_eq_ok.mp (backend.formed answered)
    have lengths : ∀ added ∈ (engine.delivered frame column statement).columns,
        added.values.length = table.rowCount := by
      intro added listed
      have old {before : Column} (listed : before ∈ table.columns) := formed.lengths before listed
      rw [backend.columns answered] at old
      rcases List.mem_append.mp listed with front | measure
      · obtain ⟨before, member, -, length⟩ := markedFrom.columns added front
        rw [length]
        exact old (List.mem_append_left _ member)
      · exact old (List.mem_append_right _ measure)
    refine ⟨fun added listed => ?_, ?_⟩
    · rw [lengths added listed]
      unfold Table.rowCount
      cases columns_eq : (engine.delivered frame column statement).columns with
      | nil =>
        rw [columns_eq] at listed
        cases listed
      | cons first rest =>
        exact (lengths first (by rw [columns_eq]; exact List.mem_cons_self)).symm
    · have distinct := formed.distinct
      have names := markedFrom.names
      unfold Table.names at distinct names ⊢
      rw [backend.columns answered, List.map_append] at distinct
      unfold delivered
      rw [List.map_append]
      exact distinct.sublist (names.append (.refl _))
  grouping := by
    intro added listed
    obtain ⟨markedFrom, -, -⟩ := backend.framed_spec checked apart answered
    obtain ⟨before, member, header, -⟩ := markedFrom.columns added listed
    rw [header]
    exact backend.grouping _ before member
  measures := fun measure listed => ⟨backend.measure _ _, (backend.names answered).2 measure listed⟩
  framed_eq_nil := by
    obtain ⟨markedFrom, kept, -⟩ := backend.framed_spec checked apart answered
    constructor
    · intro empty
      by_contra selected
      obtain ⟨field, listed⟩ := List.exists_mem_of_ne_nil _ selected
      have there := kept field listed
      rw [empty] at there
      cases there
    · intro empty
      have noTotals : statement.totalColumns = [] :=
        List.subset_nil.mp (empty ▸ Statement.totalColumns_subset checked)
      have noNames := (backend.names answered).1
      rw [empty, noTotals] at noNames
      simp only [List.map_nil, ite_self, List.append_nil] at noNames
      have names := markedFrom.names
      unfold Table.names at names
      rw [noNames] at names
      exact List.map_eq_nil_iff.mp (List.sublist_nil.mp names)

theorem Delivers.groupingColumns_eq {statement : Statement} (delivers : engine.Delivers frame column statement) :
    (engine.delivered frame column statement).groupingColumns = engine.framed frame statement.core := by
  have measured : ∀ added ∈ statement.measures.map (column statement.core),
      added.header.isMeasure = true := by
    intro added listed
    obtain ⟨measure, member, rfl⟩ := List.mem_map.mp listed
    exact (delivers.measures measure member).1
  have front : (⟨engine.framed frame statement.core⟩ : Table).groupingColumns =
      engine.framed frame statement.core :=
    List.filter_eq_self.mpr fun column listed => by simp [delivers.grouping column listed]
  exact (Table.groupingColumns_extend measured).trans front

end Engine

end CubeQuery
