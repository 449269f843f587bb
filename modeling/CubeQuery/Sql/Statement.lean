import CubeQuery.Query
import CubeQuery.Sql.Criteria
import CubeQuery.Sql.GroupingMarker

/-!
Statements: what one SQL text is made of, with every field typed.
-/

namespace CubeQuery

mutual

structure TypedTable where
  name : String
  /-- Whether the name is that of a virtual table of the statement. -/
  isVirtual : Bool
  joins : List TypedJoin

structure TypedJoin where
  table : TypedTable
  type : JoinType
  criteria : Option TypedCriteria

end

namespace TypedTable

def ofName (name : String) : TypedTable := ⟨name, false, []⟩

mutual

/-- The tables of the database that are read. -/
def physicalTables : TypedTable → List String
  | ⟨name, isVirtual, joins⟩ => (if isVirtual then [] else [name]) ++ joinedTables joins

def joinedTables : List TypedJoin → List String
  | [] => []
  | ⟨table, _, _⟩ :: rest => table.physicalTables ++ joinedTables rest

end

end TypedTable

structure Statement where
  table : Option TypedTable
  subQuery : Option Statement
  virtualTables : List VirtualTable
  select : List TypedField
  rollup : List TypedField
  groupingSets : List (List TypedField)
  measures : List TypedMeasure
  whereCriteria : Option TypedCriteria
  havingCriteria : Option TypedCriteria
  limit : Option Nat

namespace Statement

/-- The columns that have totals: those of the rollup, or those that some grouping set lacks. -/
def totalColumns (statement : Statement) : List TypedField :=
  if statement.groupingSets.isEmpty then statement.rollup
  else statement.select.filter fun field => statement.groupingSets.any fun set => !set.contains field

def hasTotals (statement : Statement) : Bool := !statement.totalColumns.isEmpty

/-- The columns of the result: the selected ones, markers if the dialect has them, measures. -/
def columnNames (statement : Statement) (groupingMarkers : Bool) : List String :=
  statement.select.map TypedField.name
    ++ (if groupingMarkers then
          statement.totalColumns.map fun field => GroupingMarker.label field.name
        else [])
    ++ statement.measures.map TypedMeasure.label

def physicalTables : Statement → List String
  | ⟨table, subQuery, _, _, _, _, _, _, _, _⟩ =>
    (match table with
      | none => []
      | some table => table.physicalTables)
    ++ match subQuery with
      | none => []
      | some statement => statement.physicalTables

def check (statement : Statement) : Except QueryError Unit := do
  let missing := statement.rollup.filter fun field => !statement.select.contains field
  if !missing.isEmpty then
    throw (.invalidRollup (missing.map TypedField.name) (statement.select.map TypedField.name))
  if !statement.rollup.isEmpty && !statement.groupingSets.isEmpty then
    throw (.invalidQuery .rollupWithGroupingSets)
  if statement.table.isSome && statement.subQuery.isSome then
    throw (.invalidQuery .twoSources)

end Statement

end CubeQuery
