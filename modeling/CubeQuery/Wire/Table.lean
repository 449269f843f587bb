import CubeQuery.Table
import CubeQuery.Wire.Field

/-!
The wire form of tables.
-/

namespace CubeQuery

def Header.toJson (header : Header) : Json :=
  .obj
    [("name", .str header.name), ("field_type", .str header.type.wireName),
     ("is_measure", .bool header.isMeasure)]

def Table.toJson (table : Table) : Json :=
  .obj
    [("headers", .arr (table.headers.map Header.toJson)),
     ("columns", .arr (table.columns.map fun column => .arr (Value.listToJson column.values)))]

end CubeQuery
