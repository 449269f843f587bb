import CubeQuery.Proofs.Sql.Writing

/-! Dialects differ in the texts that they write and not in what they accept. Part by part, two dialects
come out alike: both write a part, or both fail at it with one error. Markers of totals and a rollup that
is spelled out cannot fail by themselves, since they read columns that have been written before. -/

namespace CubeQuery

open Steps

variable {first second : Dialect}

/-! ### Conditions and criteria -/

theorem TypedField.sql_alike (field : TypedField) : Alike (field.sql first) (field.sql second) := by
  cases field with
  | column store name type label => cases store <;> exact .ok _ _
  | function expression => exact .error _
  | constant value => exact .ok _ _
  | labelled label type => exact .ok _ _

theorem Condition.render_alike {literal : Value → Except QueryError String} (expression other : String) :
    (condition : Condition) → Alike (condition.render expression literal) (condition.render other literal)
  | .single _ value => (Alike.refl (literal value)).bind fun _ _ _ _ => .ok _ _
  | .inList _ values => (Alike.refl (values.mapM literal)).bind fun _ _ _ _ => .ok _ _
  | .logical _ one two =>
    (render_alike expression other one).bind fun _ _ _ _ =>
      (render_alike expression other two).bind fun _ _ _ _ => .ok _ _
  | .constant _ => .ok _ _

theorem Condition.sql_alike {literal : Value → Except QueryError String} (expression other : String)
    (condition : Condition) : Alike (condition.sql expression literal) (condition.sql other literal) :=
  (Alike.refl condition.check).bind fun _ _ _ _ => condition.render_alike expression other

mutual

theorem TypedCriteria.sql_alike : (criteria : TypedCriteria) → Alike (criteria.sql first) (criteria.sql second)
  | .onField field condition => by
    unfold TypedCriteria.sql
    exact field.sql_alike.bind fun _ _ _ _ => (condition.sql_alike _ _).bind fun _ _ _ _ => .ok _ _
  | .onPair left right type => by
    unfold TypedCriteria.sql
    exact (Alike.refl (checkComparison type)).bind fun _ _ _ _ =>
      left.sql_alike.bind fun _ _ _ _ => right.sql_alike.bind fun _ _ _ _ => .ok _ _
  | .onMeasure measure condition => by
    unfold TypedCriteria.sql
    exact measure.sql_alike.bind fun _ _ _ _ => (condition.sql_alike _ _).bind fun _ _ _ _ => .ok _ _
  | .logical type children => by
    unfold TypedCriteria.sql
    refine (Alike.refl (checkLogical type)).bind fun _ _ _ _ =>
      (TypedCriteria.parts_alike children).bind fun parts others _ _ => ?_
    cases parts <;> cases others <;> exact .ok _ _

theorem TypedCriteria.parts_alike : (children : List TypedCriteria) →
    Alike (TypedCriteria.parts first children) (TypedCriteria.parts second children)
  | [] => .ok _ _
  | child :: rest => by
    unfold TypedCriteria.parts
    exact child.sql_alike.bind fun _ _ _ _ => (TypedCriteria.parts_alike rest).bind fun _ _ _ _ => .ok _ _

theorem TypedCriteria.optionSql_alike : (criteria : Option TypedCriteria) →
    Alike (TypedCriteria.optionSql first criteria) (TypedCriteria.optionSql second criteria)
  | none => .ok _ _
  | some criteria => by
    unfold TypedCriteria.optionSql
    exact criteria.sql_alike

theorem TypedMeasure.sql_alike : (measure : TypedMeasure) → Alike (measure.sql first) (measure.sql second)
  | .aggregated label field aggregation criteria => by
    unfold TypedMeasure.sql
    refine field.sql_alike.bind fun _ _ _ _ =>
      (TypedCriteria.optionSql_alike criteria).bind fun condition other _ _ => ?_
    cases condition <;> cases other <;> exact .ok _ _
  | .expression label sql => .ok _ _
  | .count label => .ok _ _

end

/-! ### Sources -/

theorem TypedCriteria.joinSql_alike (criteria : TypedCriteria) :
    Alike (criteria.joinSql first) (criteria.joinSql second) := by
  unfold TypedCriteria.joinSql
  split
  · refine (parts_alike _).bind fun parts others _ _ => ?_
    cases parts <;> cases others <;> exact .ok _ _
  · exact sql_alike _

theorem onClause_alike (type : JoinType) (criteria : Option TypedCriteria) :
    Alike (onClause first type criteria) (onClause second type criteria) := by
  unfold onClause
  split
  · exact .ok _ _
  · exact .ok _ _
  · refine (TypedCriteria.joinSql_alike _).bind fun condition other _ _ => ?_
    cases condition <;> cases other <;> exact .ok _ _

mutual

theorem TypedTable.sql_alike : (table : TypedTable) → Alike (table.sql first) (table.sql second)
  | ⟨name, isVirtual, joins⟩ => by
    unfold TypedTable.sql
    exact (TypedTable.joinsSql_alike joins).bind fun _ _ _ _ => .ok _ _

theorem TypedTable.joinsSql_alike : (joins : List TypedJoin) →
    Alike (TypedTable.joinsSql first joins) (TypedTable.joinsSql second joins)
  | [] => .ok _ _
  | ⟨table, type, criteria⟩ :: rest => by
    unfold TypedTable.joinsSql
    exact table.sql_alike.bind fun _ _ _ _ => (onClause_alike type criteria).bind fun _ _ _ _ =>
      (joinsSql_alike rest).bind fun _ _ _ _ => .ok _ _

end

theorem criteriaClause_alike (keyword : String) (criteria : Option TypedCriteria) :
    Alike (criteriaClause first keyword criteria) (criteriaClause second keyword criteria) := by
  unfold criteriaClause
  refine (TypedCriteria.optionSql_alike criteria).bind fun condition other _ _ => ?_
  cases condition <;> cases other <;> exact .ok _ _

theorem GroupBy.setSql_alike (set : List TypedField) : Alike (setSql first set) (setSql second set) := by
  have columns : Alike (columnList "," first set) (columnList "," second set) :=
    (Alike.mapM fun field _ => field.sql_alike).bind fun _ _ _ _ => .ok _ _
  exact columns.bind fun _ _ _ _ => .ok _ _

/-! ### Statements -/

namespace Statement

variable {statement : Statement}

theorem selectItem_alike (field : TypedField) : Alike (selectItem first field) (selectItem second field) := by
  unfold selectItem
  refine field.sql_alike.bind fun _ _ _ _ => ?_
  cases field.label? <;> exact .ok _ _

/-- The markers of totals, in a dialect that has them. -/
def markers (dialect : Dialect) (statement : Statement) : Except QueryError (List String) :=
  if dialect.groupingMarkers then statement.totalColumns.mapM (markerItem dialect) else pure []

theorem selectList_eq (dialect : Dialect) : statement.selectList dialect = do
    let columns ← statement.select.mapM (selectItem dialect)
    let markers ← statement.markers dialect
    let measures ← statement.measures.mapM (TypedMeasure.selectSql dialect)
    return ", ".intercalate (columns ++ markers ++ measures) := by
  unfold selectList markers
  cases dialect.groupingMarkers <;> rfl

/-- Markers can be written once the selected columns are. -/
theorem exists_markers {dialect : Dialect} (checked : statement.check = .ok ()) {columns : List String}
    (written : statement.select.mapM (selectItem dialect) = .ok columns) :
    ∃ markers, statement.markers dialect = .ok markers := by
  unfold markers
  split
  · rw [exists_mapM_iff]
    intro field total
    rw [exists_markerItem_iff, ← exists_selectItem_iff]
    exact exists_mapM_iff.mp ⟨columns, written⟩ field (totalColumns_subset checked total)
  · exact ⟨[], rfl⟩

theorem selectList_alike (checked : statement.check = .ok ()) :
    Alike (statement.selectList first) (statement.selectList second) := by
  rw [selectList_eq, selectList_eq]
  refine (Alike.mapM fun field _ => selectItem_alike field).bind fun _ _ written otherWritten => ?_
  refine (Alike.of_values (exists_markers checked written) (exists_markers checked otherWritten)).bind
    fun _ _ _ _ => ?_
  have measures : Alike (statement.measures.mapM (TypedMeasure.selectSql first))
      (statement.measures.mapM (TypedMeasure.selectSql second)) :=
    Alike.mapM fun measure _ => measure.sql_alike.bind fun _ _ _ _ => .ok _ _
  exact measures.bind fun _ _ _ _ => .ok _ _

/-- Grouping sets that are listed come out alike one by one. Every other clause groups by selected
columns, which have been written. -/
theorem groups_alike (checked : statement.check = .ok ()) {selected otherSelected : String}
    (written : statement.selectList first = .ok selected)
    (otherWritten : statement.selectList second = .ok otherSelected) :
    Alike ((GroupBy.ofStatement first statement).sql first)
      ((GroupBy.ofStatement second statement).sql second) := by
  by_cases listed : statement.groupingSets = []
  · have unlisted : ∀ dialect : Dialect, ∀ set ∈ statement.groupingSets, ∀ field ∈ set,
        ∃ text, field.sql dialect = .ok text := by
      rw [listed]
      exact fun _ _ member => absurd member List.not_mem_nil
    have columns := ((exists_selectList_iff checked).mp ⟨_, written⟩).1
    have otherColumns := ((exists_selectList_iff checked).mp ⟨_, otherWritten⟩).1
    exact .of_values ((exists_groups_iff checked columns).mpr (unlisted first))
      ((exists_groups_iff checked otherColumns).mpr (unlisted second))
  · have explicit (dialect : Dialect) :
        GroupBy.ofStatement dialect statement = .explicit statement.groupingSets := by
      unfold GroupBy.ofStatement
      simp [listed]
    rw [explicit, explicit]
    exact (Alike.mapM fun set _ => GroupBy.setSql_alike set).bind fun _ _ _ _ => .ok _ _

/-- The step from a statement's source to the statement. -/
theorem sql_alike_of_source (source : Alike (statement.sourceSql first) (statement.sourceSql second)) :
    Alike (statement.sql first) (statement.sql second) := by
  rw [sql_eq, sql_eq]
  refine (Alike.refl statement.check).bind fun _ _ checked _ => ?_
  refine (selectList_alike checked).bind fun _ _ written otherWritten => ?_
  refine source.bind fun _ _ _ _ => ?_
  have clauses : Alike (statement.clauses first) (statement.clauses second) :=
    (criteriaClause_alike _ _).bind fun _ _ _ _ =>
      (groups_alike checked written otherWritten).bind fun _ _ _ _ =>
        (criteriaClause_alike _ _).bind fun _ _ _ _ => .ok _ _
  exact clauses.bind fun _ _ _ _ => .ok _ _

/-- The induction is on the sub-queries. -/
theorem sql_alike : (statement : Statement) → Alike (statement.sql first) (statement.sql second)
  | ⟨_, some inner, _, _, _, _, _, _, _, _⟩ =>
    sql_alike_of_source ((sql_alike inner).bind fun _ _ _ _ => .ok _ _)
  | ⟨some table, none, _, _, _, _, _, _, _, _⟩ => sql_alike_of_source table.sql_alike
  | ⟨none, none, _, _, _, _, _, _, _, _⟩ => sql_alike_of_source (.error _)

/-- Any two dialects accept the same statements, and reject the others with the same errors. -/
theorem accepted_alike (first second : Dialect) (statement : Statement) :
    ((∃ text, statement.sql first = .ok text) ↔ ∃ text, statement.sql second = .ok text) ∧
      ∀ error, statement.sql first = .error error ↔ statement.sql second = .error error :=
  ⟨statement.sql_alike.exists_iff, statement.sql_alike.error_iff⟩

end Statement

end CubeQuery
