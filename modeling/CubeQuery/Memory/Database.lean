import CubeQuery.Memory.Aggregate
import CubeQuery.Sql.GroupBy
import CubeQuery.Table

/-!
A database in memory, which answers statements over one table. It is what the answers of any other
database are measured by: rows are filtered, grouped once for each grouping set, and aggregated.
-/

namespace CubeQuery

structure MemoryDatabase where
  tables : List (String × List Row)
  /-- Whether totals are marked by columns of their own. -/
  groupingMarkers : Bool

def VirtualTable.rows (table : VirtualTable) : List Row := table.records.map (Row.ofCells table.fields)

namespace Statement

/-- The grouping sets of a statement: those that it lists, else the plain columns with each
beginning of the rollup, the longest first. -/
def groupingSetList (statement : Statement) : List (List TypedField) :=
  if !statement.groupingSets.isEmpty then statement.groupingSets
  else
    let plain := statement.select.filter fun field => !statement.rollup.contains field
    (List.range (statement.rollup.length + 1)).map fun dropped =>
      plain ++ statement.rollup.take (statement.rollup.length - dropped)

/-- The cells that a row is grouped by; columns outside of the set are null. -/
def groupKey (statement : Statement) (set : List TypedField) (row : Row) : List Value :=
  statement.select.map fun field => if set.contains field then row.read field else .null

/-- The keys of the groups in ascending order. Without columns there is one group, with or without
rows. -/
def groupKeys (statement : Statement) (set : List TypedField) (rows : List Row) : List (List Value) :=
  if statement.select.isEmpty then [[]]
  else
    ((rows.map (statement.groupKey set)).eraseDups).mergeSort fun a b =>
      Value.compareItems a b != .gt

/-- What marks the totals of a grouping set. -/
def markerCells (statement : Statement) (set : List TypedField) : List Value :=
  statement.totalColumns.map fun field => .int (if set.contains field then 0 else 1)

end Statement

namespace MemoryDatabase

def sourceRows (database : MemoryDatabase) (statement : Statement) : Except QueryError (List Row) :=
  match statement.table with
  | none => .error (.backend "memory backend needs a table")
  | some table =>
    if !table.joins.isEmpty then .error (.backend "memory backend does not join")
    else if table.isVirtual then
      match statement.virtualTables.find? (·.name = table.name) with
      | some virtual => .ok virtual.rows
      | none => .error (.backend ("no virtual table " ++ table.name))
    else
      match database.tables.lookup table.name with
      | some rows => .ok rows
      | none => .error (.backend ("no rows for " ++ table.name))

/-- One line of the answer: the key of a group, markers and measures. -/
def groupLine (database : MemoryDatabase) (statement : Statement) (set : List TypedField)
    (rows : List Row) (key : List Value) : Except QueryError (List Value) := do
  let members := rows.filter fun row => statement.groupKey set row = key
  return key ++ (if database.groupingMarkers then statement.markerCells set else [])
    ++ (← statement.measures.mapM (TypedMeasure.aggregate members))

def setLines (database : MemoryDatabase) (statement : Statement) (rows : List Row)
    (set : List TypedField) : Except QueryError (List (List Value)) :=
  (statement.groupKeys set rows).mapM (database.groupLine statement set rows)

/-- A limit of zero is none. -/
def limited {α : Type} (limit : Option Nat) (lines : List α) : List α :=
  match limit with
  | none | some 0 => lines
  | some count => lines.take count

/-- The type of a measure: that of its first value that is not null. -/
def measureType (lines : List (List Value)) (index : Nat) : FieldType :=
  match (lines.filterMap (·[index]?)).find? fun value => !value.isNull with
  | some value => value.fieldType
  | none => .double

def headers (database : MemoryDatabase) (statement : Statement) (lines : List (List Value)) :
    List Header :=
  let columns := statement.select.map fun field => Header.grouping field.name field.type
  let markers :=
    if database.groupingMarkers then
      statement.totalColumns.map fun field => Header.grouping (GroupingMarker.label field.name) .long
    else []
  columns ++ markers ++ statement.measures.mapIdx fun index measure =>
    Header.measure measure.label (measureType lines (columns.length + markers.length + index))

def answer (database : MemoryDatabase) (statement : Statement) : Except QueryError Table := do
  if statement.havingCriteria.isSome then
    throw (.backend "memory backend does not filter groups")
  let rows ← TypedCriteria.select statement.whereCriteria (← database.sourceRows statement)
  let lines := limited statement.limit
    (← statement.groupingSetList.mapM (database.setLines statement rows)).flatten
  (Table.ofRows (database.headers statement lines) lines).mapError .table

end MemoryDatabase

end CubeQuery
