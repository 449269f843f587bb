import CubeQuery.Proofs.Cache.Hits
import CubeQuery.Proofs.Memory.Lines
import CubeQuery.Proofs.Restriction.Totals

/-! What a database answers to a statement that filters groups, against what it answers to the statement
without these filters. Where filters only drop rows, what is received has some of the rows of the other,
with totals and buckets in the same places. -/

namespace CubeQuery

open Steps

/-- Filters after grouping only drop rows. What is answered with them, for whatever measures, is some of
the rows of what is answered without them. -/
def Engine.DropsRows (engine : Engine) (frame : Statement → List Column)
    (column : Statement → TypedMeasure → Column) : Prop :=
  ∀ ⦃number other statement measures limited whole⦄,
    statement.measures ≠ [] → measures ≠ [] → engine.answer number statement = .ok limited →
      engine.answer other (statement.unrestricted.withMeasures measures) = .ok whole →
        ∃ kept, kept.Sublist whole.rowIndices ∧ limited.rowCount = kept.length ∧
          frame statement.core = (frame statement.unrestricted.core).map (Column.take kept) ∧
          ∀ measure ∈ statement.measures, measure ∈ measures →
            (column statement.core measure).PickedFrom kept (column statement.unrestricted.core measure)

/-! ### Layouts -/

namespace Layout

variable {layout other : Layout} {measures others : List Measure} {kept : List Nat}

/-- Tables of layouts, one of which has some of the rows of the other. -/
theorem Fits.selects (fits : layout.Fits measures) (otherFits : other.Fits others)
    (sublist : kept.Sublist (other.table others).rowIndices)
    (rowCount : (layout.table measures).rowCount = kept.length)
    (front : layout.front = other.front.map (Column.take kept))
    (labels : ∀ measure ∈ measures, ∀ another ∈ others, measure.label = another.label → measure = another)
    (picked : ∀ measure ∈ measures, measure ∈ others →
      (layout.columnOf measure).PickedFrom kept (other.columnOf measure)) :
    (layout.table measures).Selects (other.table others) kept where
  sublist := sublist
  rowCount := rowCount
  grouping := by rw [fits.groupingColumns_eq, otherFits.groupingColumns_eq, front]
  found := by
    intro name column another found otherFound
    -- A name in front of the measures is in front of both tables.
    have inFront {before : Column} (listed : before ∈ other.front) (named : before.name = name) :
        column.PickedFrom kept another := by
      have here : before.take kept ∈ (layout.table measures).columns := by
        refine List.mem_append_left _ ?_
        rw [front]
        exact List.mem_map_of_mem listed
      have stands := fits.formed.find?_eq_some here
      have otherStands := otherFits.formed.find?_eq_some (List.mem_append_left _ listed)
      rw [show (before.take kept).name = name from named, found] at stands
      rw [named, otherFound] at otherStands
      rw [Option.some.inj stands, Option.some.inj otherStands]
      rfl
    have named := Table.name_of_find? found
    have otherNamed := Table.name_of_find? otherFound
    rcases List.mem_append.mp (Table.mem_of_find? found) with grouping | measured
    · rw [front] at grouping
      obtain ⟨before, listed, rfl⟩ := List.mem_map.mp grouping
      exact inFront listed named
    · rcases List.mem_append.mp (Table.mem_of_find? otherFound) with grouping | otherMeasured
      · exact inFront grouping otherNamed
      · obtain ⟨measure, listed, rfl⟩ := List.mem_map.mp measured
        obtain ⟨twin, otherListed, rfl⟩ := List.mem_map.mp otherMeasured
        rw [(fits.measured measure listed).2] at named
        rw [(otherFits.measured twin otherListed).2] at otherNamed
        obtain rfl := labels measure listed twin otherListed (named.trans otherNamed.symm)
        exact picked measure listed otherListed

end Layout

/-! ### Tasks -/

variable {engine : Engine} {frame : Statement → List Column} {column : Statement → TypedMeasure → Column}
  {task other : Plan.ScopeTask}

/-- Without its filters after grouping, a scope has statements without them. -/
theorem Plan.ScopeTask.Compiled.unrestricted_eq (compiled : task.Compiled engine)
    (otherCompiled : other.Compiled engine) (free : other.scope = task.scope.prefetch)
    {measures : List Measure} (asked : measures ⊆ task.measures) (otherAsked : measures ⊆ other.measures) :
    other.statement.withMeasures (measures.map other.typed) =
      (task.statement.withMeasures (measures.map task.typed)).unrestricted := by
  have lowered := otherCompiled.lower_eq otherAsked
  rw [free, Scope.lower_prefetch (compiled.lower_eq asked)] at lowered
  exact (Except.ok.inj lowered).symm

/-- What is received for a task and what is answered before totals are marked. -/
theorem Engine.Columnwise.received_all (backend : engine.Columnwise frame column)
    (compiled : task.Compiled engine)
    (apart : task.statement.MarkersApart engine.dialect.groupingMarkers) {number : Nat} {table : Table}
    (received : engine.receive number (task.statementFor task.measures) = .ok table) :
    table = (engine.layoutOf frame column task).table task.measures ∧
      (engine.layoutOf frame column task).Fits task.measures ∧
      ∃ raw, engine.answer number task.statement = .ok raw ∧ raw.rowCount = table.rowCount := by
  have every : task.statementFor task.measures = task.statement := by
    have typed := compiled.statementFor_eq fun _ => true
    rw [filter_every, ← compiled.typed_spec.1, Statement.withMeasures_self] at typed
    exact typed
  have whole := received
  rw [← filter_every task.measures] at received
  obtain ⟨rfl, fits⟩ := backend.received compiled apart (by rw [filter_every]; exact compiled.asked) received
  rw [every] at whole
  obtain ⟨raw, answered⟩ := answered_of_receive whole
  refine ⟨by rw [filter_every], by rwa [filter_every] at fits, raw, answered, ?_⟩
  -- Both are as long as the column of any measure.
  obtain ⟨measure, listed⟩ := List.exists_mem_of_ne_nil _ compiled.asked
  have columns := backend.columns answered
  rw [compiled.typed_spec.1, List.map_map] at columns
  have rawLength := (Table.checkColumns_eq_ok.mp (backend.formed answered)).lengths
    (column task.statement.core (task.typed measure))
    (columns ▸ List.mem_append_right _ (List.mem_map_of_mem listed))
  rw [filter_every] at fits ⊢
  exact rawLength.symm.trans (fits.formed.lengths ((engine.layoutOf frame column task).columnOf measure)
    (List.mem_append_right _ (List.mem_map_of_mem listed)))

/-- Of the columns in front, the same rows are kept once totals are marked. -/
theorem Engine.Columnwise.framed_take (backend : engine.Columnwise frame column)
    {statement free : Statement} (core : free.core = statement.unrestricted.core)
    (checked : statement.check = .ok ()) (otherChecked : free.check = .ok ())
    (apart : statement.MarkersApart engine.dialect.groupingMarkers)
    (otherApart : free.MarkersApart engine.dialect.groupingMarkers)
    {number otherNumber : Nat} {limited whole : Table}
    (answered : engine.answer number statement = .ok limited)
    (otherAnswered : engine.answer otherNumber free = .ok whole) {kept : List Nat}
    (sublist : kept.Sublist whole.rowIndices)
    (taken : frame statement.core = (frame free.core).map (Column.take kept)) :
    engine.framed frame statement.core = (engine.framed frame free.core).map (Column.take kept) := by
  have totalColumns_eq : free.totalColumns = statement.totalColumns :=
    show free.core.totalColumns = statement.unrestricted.core.totalColumns by rw [core]
  have totals_eq : free.hasTotals = statement.hasTotals :=
    show free.core.hasTotals = statement.unrestricted.core.hasTotals by rw [core]
  obtain ⟨-, -, marked⟩ := backend.framed_spec checked apart answered
  obtain ⟨-, -, otherMarked⟩ := backend.framed_spec otherChecked otherApart otherAnswered
  cases totals : statement.hasTotals with
  | false =>
    have plain : engine.framed frame statement.core = frame statement.core :=
      if_neg (Bool.eq_false_iff.mp totals)
    have otherPlain : engine.framed frame free.core = frame free.core :=
      if_neg (Bool.eq_false_iff.mp (totals_eq.trans totals))
    rw [plain, otherPlain, taken]
  | true =>
    have has : (⟨frame free.core⟩ : Table).HasRows kept := by
      intro before listed row member
      have columns := backend.columns otherAnswered
      rw [(Table.checkColumns_eq_ok.mp (backend.formed otherAnswered)).lengths before
        (columns ▸ List.mem_append_left _ listed)]
      exact List.mem_range.mp (sublist.subset member)
    have here := marked totals
    have there := otherMarked (totals_eq.trans totals)
    unfold Statement.markTotals at here there
    rw [totalColumns_eq] at there
    rw [taken] at here
    exact congrArg (fun result => result.1.columns)
      (here.symm.trans (Table.markTotals_takeRows has there))

/-- Of a task without its filters after grouping, what is received has all rows that are received with
them. -/
theorem Engine.DropsRows.selects (drops : engine.DropsRows frame column)
    (backend : engine.Columnwise frame column) (compiled : task.Compiled engine)
    (otherCompiled : other.Compiled engine) (free : other.scope = task.scope.prefetch)
    (apart : task.statement.MarkersApart engine.dialect.groupingMarkers)
    (otherApart : other.statement.MarkersApart engine.dialect.groupingMarkers)
    (labels : ∀ measure ∈ task.measures, ∀ another ∈ other.measures,
      measure.label = another.label → measure = another) {number otherNumber : Nat} {table whole : Table}
    (received : engine.receive number (task.statementFor task.measures) = .ok table)
    (otherReceived : engine.receive otherNumber (other.statementFor other.measures) = .ok whole) :
    ∃ kept, table.Selects whole kept := by
  obtain ⟨rfl, fits, limited, answered, count⟩ := backend.received_all compiled apart received
  obtain ⟨rfl, otherFits, all, otherAnswered, otherCount⟩ :=
    backend.received_all otherCompiled otherApart otherReceived
  have core : other.statement.core = task.statement.unrestricted.core :=
    compiled.unrestricted_eq otherCompiled free (List.nil_subset _) (List.nil_subset _)
  have typed {measure : Measure} (asked : measure ∈ task.measures) (otherAsked : measure ∈ other.measures) :
      other.typed measure = task.typed measure := by
    have statement_eq := compiled.unrestricted_eq otherCompiled free
      (List.cons_subset.mpr ⟨asked, List.nil_subset _⟩) (List.cons_subset.mpr ⟨otherAsked, List.nil_subset _⟩)
    exact List.singleton_inj.mp (congrArg Statement.measures statement_eq)
  have statement_eq : task.statement.unrestricted.withMeasures other.statement.measures =
      other.statement := by
    have same := congrArg (Statement.withMeasures · other.statement.measures) core
    simpa [Statement.core] using same.symm
  have otherAnswer := otherAnswered
  rw [← statement_eq] at otherAnswer
  have measured {some : Plan.ScopeTask} (compiled : some.Compiled engine) : some.statement.measures ≠ [] := by
    rw [compiled.typed_spec.1]
    exact fun none => compiled.asked (List.map_eq_nil_iff.mp none)
  obtain ⟨kept, sublist, rowCount, taken, picked⟩ :=
    drops (measured compiled) (measured otherCompiled) answered otherAnswer
  rw [← core] at taken picked
  obtain ⟨text, written⟩ := compiled.written
  obtain ⟨otherText, otherWritten⟩ := otherCompiled.written
  have framed := backend.framed_take core (Engine.check_of_sql written)
    (Engine.check_of_sql otherWritten) apart otherApart answered otherAnswered sublist taken
  refine ⟨kept, fits.selects otherFits ?_ (count ▸ rowCount) framed labels fun measure asked otherAsked => ?_⟩
  · unfold Table.rowIndices at sublist ⊢
    rwa [otherCount] at sublist
  · show (column task.statement.core (task.typed measure)).PickedFrom kept
      (column other.statement.core (other.typed measure))
    rw [typed asked otherAsked]
    refine picked (task.typed measure) ?_ ?_
    · rw [compiled.typed_spec.1]
      exact List.mem_map_of_mem asked
    · rw [otherCompiled.typed_spec.1, ← typed asked otherAsked]
      exact List.mem_map_of_mem otherAsked

/-- What is received for a scope that has no filter after grouping has the same rows in either run. -/
theorem Engine.DropsRows.selects_all (drops : engine.DropsRows frame column)
    (backend : engine.Columnwise frame column) (compiled : task.Compiled engine)
    (otherCompiled : other.Compiled engine) (same : other.scope = task.scope)
    (free : task.scope.prefetch = task.scope)
    (apart : task.statement.MarkersApart engine.dialect.groupingMarkers)
    (otherApart : other.statement.MarkersApart engine.dialect.groupingMarkers)
    (labels : ∀ measure ∈ task.measures, ∀ another ∈ other.measures,
      measure.label = another.label → measure = another) {number otherNumber : Nat} {table whole : Table}
    (received : engine.receive number (task.statementFor task.measures) = .ok table)
    (otherReceived : engine.receive otherNumber (other.statementFor other.measures) = .ok whole) :
    table.Selects whole whole.rowIndices := by
  obtain ⟨kept, selects⟩ := drops.selects backend compiled otherCompiled (by rw [same, free]) apart
    otherApart labels received otherReceived
  obtain ⟨back, backSelects⟩ := drops.selects backend otherCompiled compiled (by rw [same, free])
    otherApart apart (fun measure asked another otherAsked label =>
      (labels another otherAsked measure asked label.symm).symm) otherReceived received
  -- Neither has fewer rows than the other.
  have all : kept = whole.rowIndices := by
    refine selects.sublist.eq_of_length_le ?_
    calc whole.rowIndices.length
      _ = back.length := by rw [← backSelects.rowCount]; exact List.length_range
      _ ≤ table.rowIndices.length := backSelects.sublist.length_le
      _ = kept.length := by rw [selects.rowIndices_eq, List.length_range]
  rwa [all] at selects

/-! ### The database in memory -/

namespace MemoryDatabase

variable {database : MemoryDatabase} {statement : Statement} {rows : List Row}

/-- The places of the lines that a limit leaves. -/
def keptLines (statement : Statement) (rows : List Row) : List Nat :=
  limited statement.limit (List.range (groups statement rows).length)

theorem map_keptLines (statement : Statement) (rows : List Row)
    (value : List TypedField × List Value → Value) (header : Header) :
    (limited statement.limit (groups statement rows)).map value =
      (keptLines statement rows).map (Column.mk header ((groups statement rows).map value)).cell := by
  unfold keptLines
  rw [← limited_map, ← limited_map]
  refine congrArg _ (List.ext_getElem (by simp) fun row inside _ => ?_)
  have below : row < (groups statement rows).length := by simpa using inside
  simp [Column.cell, below]

theorem frontColumns_unrestricted (database : MemoryDatabase) (statement : Statement) (rows : List Row) :
    frontColumns database statement rows =
      (frontColumns database statement.unrestricted rows).map (Column.take (keptLines statement rows)) := by
  unfold frontColumns
  rw [List.map_zipWith, show frontHeaders database statement.unrestricted =
    frontHeaders database statement from rfl]
  refine List.ext_getElem (by simp) fun index _ _ => ?_
  simp only [List.getElem_zipWith, List.getElem_map, List.getElem_range]
  exact congrArg (Column.mk _) (map_keptLines ..)

theorem rowCount_columns (database : MemoryDatabase) (statement : Statement) (rows : List Row)
    {measures : List TypedMeasure} (asked : measures ≠ []) :
    (⟨frontColumns database statement rows ++ measures.map (measureColumn statement rows)⟩ :
      Table).rowCount = (limited statement.limit (groups statement rows)).length := by
  obtain ⟨measure, listed⟩ := List.exists_mem_of_ne_nil _ asked
  have stands : measureColumn statement rows measure ∈
      frontColumns database statement rows ++ measures.map (measureColumn statement rows) :=
    List.mem_append_right _ (List.mem_map_of_mem listed)
  exact (Table.lengths_of_uniform (lengths_columns measures) _ stands).symm.trans
    (lengths_columns measures _ stands)

theorem keptLines_spec {measures : List TypedMeasure} {table whole : Table}
    (measured : statement.measures ≠ []) (asked : measures ≠ [])
    (answered : database.answer statement = .ok table)
    (otherAnswered : database.answer (statement.unrestricted.withMeasures measures) = .ok whole) :
    ∃ kept, kept.Sublist whole.rowIndices ∧ table.rowCount = kept.length ∧
      database.frame statement.core =
        (database.frame statement.unrestricted.core).map (Column.take kept) ∧
      ∀ measure, (database.columnOf statement.core measure).PickedFrom kept
        (database.columnOf statement.unrestricted.core measure) := by
  obtain ⟨-, rows, selected, -, made⟩ := answer_eq_ok.mp answered
  obtain ⟨-, otherRows, otherSelected, -, otherMade⟩ := answer_eq_ok.mp otherAnswered
  obtain rfl : rows = otherRows := Except.ok.inj (selected.symm.trans otherSelected)
  obtain ⟨rfl, -⟩ := ofRows_lines_eq_ok.mp made
  obtain ⟨rfl, -⟩ := ofRows_lines_eq_ok.mp otherMade
  have core : database.selectedRows statement.core = .ok rows := selected
  have freeCore : database.selectedRows statement.unrestricted.core = .ok rows := selected
  refine ⟨keptLines statement rows, ?_, ?_, ?_, fun measure => ?_⟩
  · have count := rowCount_columns database (statement.unrestricted.withMeasures measures) rows asked
    unfold Table.rowIndices
    rw [show (statement.unrestricted.withMeasures measures).measures = measures from rfl, count]
    exact limited_sublist _ _
  · rw [rowCount_columns database statement rows measured]
    have counted := congrArg List.length
      (map_keptLines statement rows (fun _ => .null) (.grouping "" .string))
    rwa [List.length_map, List.length_map] at counted
  · unfold frame
    rw [core, freeCore]
    exact frontColumns_unrestricted database statement rows
  · unfold columnOf
    rw [core, freeCore]
    exact map_keptLines ..

end MemoryDatabase

/-- The database in memory drops the lines behind the limit. -/
theorem Engine.dropsRows_ofRows (dialect : Dialect) (datastore : Datastore)
    (tables : List (String × List Row)) :
    (Engine.ofRows dialect datastore tables).DropsRows
      (MemoryDatabase.frame ⟨tables, dialect.groupingMarkers⟩)
      (MemoryDatabase.columnOf ⟨tables, dialect.groupingMarkers⟩) := by
  intro _ _ _ _ _ _ measured asked answered otherAnswered
  obtain ⟨kept, sublist, count, taken, picked⟩ :=
    MemoryDatabase.keptLines_spec measured asked answered otherAnswered
  exact ⟨kept, sublist, count, taken, fun measure _ _ => picked measure⟩

end CubeQuery
