import CubeQuery.Sql.Statement

/-!
The clause that groups the rows of a statement, as data: which of its forms is written, and which
grouping sets it stands for. A partial rollup that a dialect does not understand is spelled out as
the list of its grouping sets.
-/

namespace CubeQuery

inductive GroupBy where
  | nothing
  | columns (plain : List TypedField)
  | rollup (plain rolled : List TypedField)
  /-- A rollup that is spelled out. -/
  | expanded (sets : List (List TypedField))
  | explicit (sets : List (List TypedField))

namespace GroupBy

/-- The columns that remain as the rolled ones are dropped one by one. -/
def dropping (select : List TypedField) : List TypedField → List TypedField → List (List TypedField)
  | _, [] => []
  | dropped, next :: rest =>
    select.filter (fun field => !(next :: dropped).contains field)
      :: dropping select (next :: dropped) rest

def ofStatement (dialect : Dialect) (statement : Statement) : GroupBy :=
  let plain := statement.select.filter fun field => !statement.rollup.contains field
  if !statement.groupingSets.isEmpty then .explicit statement.groupingSets
  else if statement.select.isEmpty then .nothing
  else if statement.rollup.isEmpty then .columns plain
  else if !plain.isEmpty && !dialect.partialRollup then
    .expanded (statement.select :: dropping statement.select [] statement.rollup.reverse)
  else .rollup plain statement.rollup

/-- The grouping sets that a clause stands for. -/
def sets : GroupBy → List (List TypedField)
  | .nothing => [[]]
  | .columns plain => [plain]
  | .rollup plain rolled =>
    (List.range (rolled.length + 1)).map fun dropped => plain ++ rolled.take (rolled.length - dropped)
  | .expanded sets | .explicit sets => sets

def columnList (between : String) (dialect : Dialect) (columns : List TypedField) :
    Except QueryError String := do
  return between.intercalate (← columns.mapM (TypedField.sql dialect))

def setSql (dialect : Dialect) (set : List TypedField) : Except QueryError String := do
  return "(" ++ (← columnList "," dialect set) ++ ")"

def sql (dialect : Dialect) : GroupBy → Except QueryError String
  | .nothing => .ok ""
  | .columns plain => do return " group by " ++ (← columnList ", " dialect plain)
  | .rollup plain rolled => do
    let plainSql ← columnList ", " dialect plain
    let rolledSql ← columnList ", " dialect rolled
    return " group by " ++ plainSql ++ (if plain.isEmpty then "" else ", ")
      ++ "rollup(" ++ rolledSql ++ ")"
  | .expanded sets => do
    return " group by grouping sets (" ++ ",".intercalate (← sets.mapM (setSql dialect)) ++ ")"
  | .explicit sets => do
    return " group by grouping sets(" ++ ", ".intercalate (← sets.mapM (setSql dialect)) ++ ")"

end GroupBy

end CubeQuery
