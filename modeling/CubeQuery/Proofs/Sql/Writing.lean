import CubeQuery.Proofs.Steps
import CubeQuery.Sql.Text

/-! Which statements can be written: those that pass the check and whose fields, measures, criteria and
source have a text each. Totals and the grouping clause take nothing more. -/

namespace CubeQuery

open Steps

variable {dialect : Dialect} {statement : Statement}

/-! ### Grouping clauses -/

namespace GroupBy

theorem exists_columnList_iff {between : String} {columns : List TypedField} :
    (∃ text, columnList between dialect columns = .ok text) ↔
      ∀ field ∈ columns, ∃ text, field.sql dialect = .ok text := by
  unfold columnList
  simp only [exists_bind_iff, pure_eq_ok, Except.ok.injEq, exists_eq', and_true, exists_mapM_iff]

theorem exists_setSql_iff {set : List TypedField} :
    (∃ text, setSql dialect set = .ok text) ↔ ∀ field ∈ set, ∃ text, field.sql dialect = .ok text := by
  unfold setSql
  simp only [exists_bind_iff, pure_eq_ok, Except.ok.injEq, exists_eq', and_true, exists_columnList_iff]

theorem dropping_subset (select : List TypedField) (dropped columns : List TypedField) :
    ∀ set ∈ dropping select dropped columns, set ⊆ select := by
  induction columns generalizing dropped with
  | nil => exact fun _ listed => absurd listed List.not_mem_nil
  | cons next rest ih =>
    intro set listed
    rcases List.mem_cons.mp listed with rfl | later
    · exact List.filter_sublist.subset
    · exact ih _ set later

end GroupBy

namespace Statement

theorem check_eq_ok_iff (statement : Statement) :
    statement.check = .ok () ↔
      statement.rollup ⊆ statement.select ∧
        (statement.rollup = [] ∨ statement.groupingSets = []) ∧
        (statement.table = none ∨ statement.subQuery = none) := by
  have missing : (statement.rollup.filter fun field => !statement.select.contains field) = [] ↔
      statement.rollup ⊆ statement.select := by
    simp [List.filter_eq_nil_iff, List.subset_def]
  rw [← missing]
  unfold check
  cases statement.rollup.filter fun field => !statement.select.contains field <;>
    cases statement.rollup <;> cases statement.groupingSets <;>
    cases statement.table <;> cases statement.subQuery <;>
    simp [throw, throwThe, MonadExceptOf.throw, pure, Except.pure, bind, Except.bind]

/-- The columns with totals are among the selected ones. -/
theorem totalColumns_subset (checked : statement.check = .ok ()) :
    statement.totalColumns ⊆ statement.select := by
  unfold totalColumns
  split
  · exact ((check_eq_ok_iff statement).mp checked).1
  · exact List.filter_sublist.subset

theorem exists_groups_iff (checked : statement.check = .ok ())
    (selected : ∀ field ∈ statement.select, ∃ text, field.sql dialect = .ok text) :
    (∃ text, (GroupBy.ofStatement dialect statement).sql dialect = .ok text) ↔
      ∀ set ∈ statement.groupingSets, ∀ field ∈ set, ∃ text, field.sql dialect = .ok text := by
  have plain : (statement.select.filter fun field => !statement.rollup.contains field) ⊆
      statement.select := List.filter_sublist.subset
  have rolled := ((check_eq_ok_iff statement).mp checked).1
  by_cases explicit : statement.groupingSets = []
  · rw [explicit]
    apply iff_of_true ?_ (fun _ listed => absurd listed List.not_mem_nil)
    unfold GroupBy.ofStatement
    simp only [explicit, List.isEmpty_nil, Bool.not_true, Bool.false_eq_true, if_false]
    split
    · exact ⟨"", rfl⟩
    split
    · simp only [GroupBy.sql, exists_bind_iff, pure_eq_ok, Except.ok.injEq, exists_eq', and_true,
        GroupBy.exists_columnList_iff]
      exact fun field listed => selected field (plain listed)
    split
    · simp only [GroupBy.sql, exists_bind_iff, pure_eq_ok, Except.ok.injEq, exists_eq', and_true,
        exists_mapM_iff, GroupBy.exists_setSql_iff]
      intro set listed field member
      apply selected field
      rcases List.mem_cons.mp listed with rfl | later
      · exact member
      · exact GroupBy.dropping_subset _ _ _ set later member
    · simp only [GroupBy.sql, exists_bind_iff, pure_eq_ok, Except.ok.injEq, exists_eq', and_true,
        exists_and_right, GroupBy.exists_columnList_iff]
      exact ⟨fun field listed => selected field (plain listed),
        fun field listed => selected field (rolled listed)⟩
  · have clause : GroupBy.ofStatement dialect statement = .explicit statement.groupingSets := by
      unfold GroupBy.ofStatement
      simp [explicit]
    rw [clause]
    simp only [GroupBy.sql, exists_bind_iff, pure_eq_ok, Except.ok.injEq, exists_eq', and_true,
      exists_mapM_iff, GroupBy.exists_setSql_iff]

/-! ### Select lists -/

theorem exists_selectItem_iff {field : TypedField} :
    (∃ text, selectItem dialect field = .ok text) ↔ ∃ text, field.sql dialect = .ok text := by
  unfold selectItem
  rw [exists_bind_iff]
  cases field.label? <;> simp

theorem exists_markerItem_iff {field : TypedField} :
    (∃ text, markerItem dialect field = .ok text) ↔ ∃ text, field.sql dialect = .ok text := by
  unfold markerItem
  simp only [exists_bind_iff, pure_eq_ok, Except.ok.injEq, exists_eq', and_true]

theorem exists_selectSql_iff {measure : TypedMeasure} :
    (∃ text, measure.selectSql dialect = .ok text) ↔ ∃ text, measure.sql dialect = .ok text := by
  unfold TypedMeasure.selectSql
  simp only [exists_bind_iff, pure_eq_ok, Except.ok.injEq, exists_eq', and_true]

theorem exists_selectList_iff (checked : statement.check = .ok ()) :
    (∃ text, statement.selectList dialect = .ok text) ↔
      (∀ field ∈ statement.select, ∃ text, field.sql dialect = .ok text) ∧
        ∀ measure ∈ statement.measures, ∃ text, measure.sql dialect = .ok text := by
  have totals := totalColumns_subset checked
  unfold selectList
  by_cases marking : dialect.groupingMarkers = true
  · simp only [marking, if_true, exists_bind_iff, pure_eq_ok, Except.ok.injEq, exists_eq', and_true,
      exists_and_right, exists_mapM_iff, exists_selectItem_iff, exists_markerItem_iff,
      exists_selectSql_iff]
    exact and_congr_right fun selected =>
      and_iff_right fun field listed => selected field (totals listed)
  · simp only [marking, Bool.false_eq_true, if_false, exists_bind_iff, pure_eq_ok, ok_bind,
      Except.ok.injEq, exists_eq', and_true, exists_and_right, exists_mapM_iff, exists_selectItem_iff,
      exists_selectSql_iff]

/-! ### Statements -/

/-- The rows that a statement reads. -/
def sourceSql (dialect : Dialect) (statement : Statement) : Except QueryError String :=
  match statement.subQuery, statement.table with
  | some inner, _ => do return "(" ++ (← inner.sql dialect) ++ ")"
  | none, some table => table.sql dialect
  | none, none => .error (.invalidQuery .noSource)

/-- What it takes to write a statement. -/
structure Writable (dialect : Dialect) (statement : Statement) : Prop where
  checked : statement.check = .ok ()
  selected : ∀ field ∈ statement.select, ∃ text, field.sql dialect = .ok text
  measured : ∀ measure ∈ statement.measures, ∃ text, measure.sql dialect = .ok text
  source : ∃ text, statement.sourceSql dialect = .ok text
  filtered : ∃ text, TypedCriteria.optionSql dialect statement.whereCriteria = .ok text
  grouped : ∀ set ∈ statement.groupingSets, ∀ field ∈ set, ∃ text, field.sql dialect = .ok text
  restricted : ∃ text, TypedCriteria.optionSql dialect statement.havingCriteria = .ok text

theorem exists_criteriaClause_iff {keyword : String} {criteria : Option TypedCriteria} :
    (∃ text, criteriaClause dialect keyword criteria = .ok text) ↔
      ∃ text, TypedCriteria.optionSql dialect criteria = .ok text := by
  unfold criteriaClause
  rw [exists_bind_iff]
  constructor
  · rintro ⟨text, written, -⟩
    exact ⟨text, written⟩
  · rintro ⟨text, written⟩
    refine ⟨text, written, ?_⟩
    cases text <;> exact ⟨_, rfl⟩

theorem sql_eq : statement.sql dialect = do
    statement.check
    let selected ← statement.selectList dialect
    let source ← statement.sourceSql dialect
    return withClause dialect statement.virtualTables ++ "select " ++ selected ++ " from " ++ source
      ++ (← statement.clauses dialect) := by
  obtain ⟨table, subQuery, virtualTables, select, rollup, groupingSets, measures, whereCriteria,
    havingCriteria, limit⟩ := statement
  rw [Statement.sql]
  cases subQuery <;> cases table <;> simp only [sourceSql, bind_assoc, pure_bind]

theorem sql_eq_ok_iff {text : String} : statement.sql dialect = .ok text ↔
    statement.check = .ok () ∧ ∃ selected source others, statement.selectList dialect = .ok selected ∧
      statement.sourceSql dialect = .ok source ∧ statement.clauses dialect = .ok others ∧
      withClause dialect statement.virtualTables ++ ("select " ++ selected ++ " from " ++ source ++ others)
        = text := by
  rw [sql_eq]
  simp only [bind_eq_ok, pure_eq_ok, Except.ok.injEq, String.append_assoc]
  constructor
  · rintro ⟨_, checked, selected, selection, source, read, others, clauses, same⟩
    exact ⟨checked, selected, source, others, selection, read, clauses, same⟩
  · rintro ⟨checked, selected, source, others, selection, read, clauses, same⟩
    exact ⟨(), checked, selected, selection, source, read, others, clauses, same⟩

theorem exists_sql_iff : (∃ text, statement.sql dialect = .ok text) ↔ statement.Writable dialect := by
  rw [sql_eq]
  simp only [clauses, exists_bind_iff, pure_eq_ok, Except.ok.injEq, exists_eq', and_true,
    exists_and_right, exists_criteriaClause_iff]
  constructor
  · rintro ⟨⟨_, checked⟩, listed, source, filtered, groups, restricted⟩
    obtain ⟨selected, measured⟩ := (exists_selectList_iff checked).mp listed
    exact ⟨checked, selected, measured, source, filtered, (exists_groups_iff checked selected).mp groups,
      restricted⟩
  · intro writable
    exact ⟨⟨(), writable.checked⟩,
      (exists_selectList_iff writable.checked).mpr ⟨writable.selected, writable.measured⟩,
      writable.source, writable.filtered,
      (exists_groups_iff writable.checked writable.selected).mpr writable.grouped, writable.restricted⟩

end Statement

end CubeQuery
