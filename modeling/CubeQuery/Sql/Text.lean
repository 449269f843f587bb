import CubeQuery.Sql.GroupBy

/-!
The SQL text of a statement:

    [with ...] select ... from ... [where ...] [group by ...] [having ...] [limit n]

Parts are rendered from left to right, and the first that cannot be rendered is the error.
-/

namespace CubeQuery

/-- One row of a virtual table. -/
def recordSql (dialect : Dialect) (fields : List String) (record : List Value) : String :=
  "select " ++ ", ".intercalate ((record.zip fields).map fun (value, field) =>
    plainLiteral value ++ " as " ++ dialect.fieldName field)

def VirtualTable.sql (dialect : Dialect) (table : VirtualTable) : String :=
  dialect.cteName table.name ++ " as ("
    ++ " union all ".intercalate (table.records.map (recordSql dialect table.fields)) ++ ")"

def withClause (dialect : Dialect) : List VirtualTable → String
  | [] => ""
  | tables => "with " ++ ", ".intercalate (tables.map (VirtualTable.sql dialect)) ++ " "

def onClause (dialect : Dialect) (type : JoinType) (criteria : Option TypedCriteria) :
    Except QueryError String := do
  match type, criteria with
  | .cross, _ | _, none => return ""
  | _, some criteria =>
    match ← criteria.joinSql dialect with
    | some condition => return " on " ++ condition
    | none => return ""

mutual

def TypedTable.sql (dialect : Dialect) : TypedTable → Except QueryError String
  | ⟨name, isVirtual, joins⟩ => do
    let joined ← TypedTable.joinsSql dialect joins
    return (if isVirtual then dialect.cteName name else dialect.tableName name) ++ joined

def TypedTable.joinsSql (dialect : Dialect) : List TypedJoin → Except QueryError String
  | [] => .ok ""
  | ⟨table, type, criteria⟩ :: rest => do
    let tableSql ← table.sql dialect
    let condition ← onClause dialect type criteria
    let others ← TypedTable.joinsSql dialect rest
    return " " ++ type.sql ++ " " ++ tableSql ++ condition ++ others

end

def criteriaClause (dialect : Dialect) (keyword : String) (criteria : Option TypedCriteria) :
    Except QueryError String := do
  match ← TypedCriteria.optionSql dialect criteria with
  | some condition => return keyword ++ condition
  | none => return ""

/-- A limit of zero is none. -/
def limitClause : Option Nat → String
  | none | some 0 => ""
  | some count => " limit " ++ toString count

namespace Statement

def selectItem (dialect : Dialect) (field : TypedField) : Except QueryError String := do
  let expression ← field.sql dialect
  match field.label? with
  | some label => return expression ++ " as " ++ dialect.fieldName label
  | none => return expression

def markerItem (dialect : Dialect) (field : TypedField) : Except QueryError String := do
  return "grouping(" ++ (← field.sql dialect) ++ ")"

def selectList (dialect : Dialect) (statement : Statement) : Except QueryError String := do
  let columns ← statement.select.mapM (selectItem dialect)
  let markers ←
    if dialect.groupingMarkers then statement.totalColumns.mapM (markerItem dialect) else pure []
  let measures ← statement.measures.mapM (TypedMeasure.selectSql dialect)
  return ", ".intercalate (columns ++ markers ++ measures)

/-- Everything after the source of the rows. -/
def clauses (dialect : Dialect) (statement : Statement) : Except QueryError String := do
  let filter ← criteriaClause dialect " where " statement.whereCriteria
  let groups ← (GroupBy.ofStatement dialect statement).sql dialect
  let having_ ← criteriaClause dialect " having " statement.havingCriteria
  return filter ++ groups ++ having_ ++ limitClause statement.limit

def sql (dialect : Dialect) (statement : Statement) : Except QueryError String := do
  statement.check
  let selected ← statement.selectList dialect
  let source ←
    match statement with
    | { subQuery := some inner, .. } => do pure ("(" ++ (← inner.sql dialect) ++ ")")
    | { subQuery := none, table := some table, .. } => table.sql dialect
    | { subQuery := none, table := none, .. } => .error (.invalidQuery .noSource)
  return withClause dialect statement.virtualTables ++ "select " ++ selected ++ " from " ++ source
    ++ (← statement.clauses dialect)

end Statement

end CubeQuery
