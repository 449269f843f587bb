import CubeQuery.Sql.Statement
import CubeQuery.Table

/-!
Totals in the answers of a database. Where marker columns tell them, the markers are dropped and
the flagged cells of their fields become totals; elsewhere the nulls of every column that can have
totals do. The table is given back as far as it was changed, also after an error.
-/

namespace CubeQuery

/-- A flag is a number, of whatever type, that is one. -/
def isFlag (value : Value) : Bool := value.asDouble? = some (.ofInt 1)

def markFlagged : List Value → List Value → List Value
  | flag :: flags, cell :: cells =>
    (if isFlag flag then Value.total else cell) :: markFlagged flags cells
  | _, cells => cells

def markNulls (cells : List Value) : List Value :=
  cells.map fun cell => if cell.isNull then Value.total else cell

namespace Table

def applyMarker (table : Table) (marker : String) : Table × Except TableError Unit :=
  match table.removeColumn marker with
  | .error error => (table, .error error)
  | .ok (flags, rest) =>
    match GroupingMarker.field? marker with
    | none => (rest, .ok ())
    | some field =>
      match rest.mapColumn field (markFlagged flags.values) with
      | .error error => (rest, .error error)
      | .ok marked => (marked, .ok ())

def applyMarkers (table : Table) : List String → Table × Except TableError Unit
  | [] => (table, .ok ())
  | marker :: markers =>
    match table.applyMarker marker with
    | (table, .error error) => (table, .error error)
    | (table, .ok ()) => table.applyMarkers markers

def markNullTotals (table : Table) : List String → Table × Except TableError Unit
  | [] => (table, .ok ())
  | name :: names =>
    match table.mapColumn name markNulls with
    | .error error => (table, .error error)
    | .ok table => table.markNullTotals names

def markTotals (table : Table) (groupingMarkers : Bool) (totalColumns : List String) :
    Table × Except TableError Unit :=
  if groupingMarkers then table.applyMarkers (table.names.filter GroupingMarker.isMarker)
  else table.markNullTotals totalColumns

end Table

namespace Statement

/-- Marks the totals in an answer to the statement. -/
def markTotals (statement : Statement) (groupingMarkers : Bool) (table : Table) :
    Table × Except TableError Unit :=
  table.markTotals groupingMarkers (statement.totalColumns.map TypedField.name)

end Statement

end CubeQuery
