import CubeQuery.Double.Reading
import CubeQuery.Wire.Table

/-!
The exact form of cells and tables. A float is an object with its text, so that it is told apart
from an integer and that NaN and the infinities are kept. Tables are written row by row.
-/

namespace CubeQuery

open Wire

/-- The member that holds the text of a float. -/
def floatName : String := "f"

def readFloat : Json → Option Double
  | .str text => Double.read? text
  | _ => none

namespace Value

mutual

def toExactJson : Value → Json
  | .float x => .obj [(floatName, .str x.text)]
  | .list items => .arr (listToExactJson items)
  | value => value.toJson

def listToExactJson : List Value → List Json
  | [] => []
  | item :: items => item.toExactJson :: listToExactJson items

end

mutual

def ofExactJson? : Json → Option Value
  | .obj [(name, text)] => if name = floatName then (readFloat text).map .float else none
  | .arr items => (listOfExactJson? items).map .list
  | json => ofJson? json

def listOfExactJson? : List Json → Option (List Value)
  | [] => some []
  | item :: items => do return (← ofExactJson? item) :: (← listOfExactJson? items)

end

end Value

def Wire.readFlag : Json → Option Bool
  | .bool b => some b
  | _ => none

def Header.toExactJson (header : Header) : Json :=
  .obj
    [("name", .str header.name), ("type", .str header.type.wireName),
     ("measure", .bool header.isMeasure)]

def Header.ofExactJson? (json : Json) : Option Header := do
  let record ← Record.ofJson? ["name", "type", "measure"] json
  return ⟨← record.required "name" readString, ← record.required "type" FieldType.ofJson?,
    ← record.withDefault "measure" false readFlag⟩

namespace Table

def toExactJson (table : Table) : Json :=
  .obj
    [("headers", .arr (table.headers.map Header.toExactJson)),
     ("rows", .arr (table.rows.map fun row => .arr (Value.listToExactJson row)))]

def readCells : Json → Option (List (List Value)) := readList (readList Value.ofExactJson?)

/-- The cells are given by rows, by columns or not at all; they may not make a table. -/
def ofExactJson? (json : Json) : Option (Except TableError Table) := do
  let record ← Record.ofJson? ["headers", "rows", "columns"] json
  let headers ← record.required "headers" (readList Header.ofExactJson?)
  let rows ← record.optional "rows" readCells
  let columns ← record.optional "columns" readCells
  return match rows, columns with
    | some rows, _ => ofRows headers rows
    | none, some columns => ofColumns headers columns
    | none, none => .ok (withoutRows headers)

end Table

end CubeQuery
