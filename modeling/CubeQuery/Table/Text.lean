import CubeQuery.Table

/-!
Tables as framed text. A column is as wide as the longest encoding of its cells, but cells are
padded to that many characters.
-/

namespace CubeQuery

/-- The cells of a column under its name, as text. -/
def Column.texts (column : Column) : List String := column.name :: column.values.map Value.text

def Column.width (column : Column) : Nat :=
  column.texts.foldl (fun width text => max width text.utf8ByteSize) 0

namespace Table

def padded (width : Nat) (text : String) : String :=
  String.ofList (List.replicate (width - text.length) ' ') ++ text

def rule (widths : List Nat) : String :=
  String.join (widths.map fun width => "+" ++ String.ofList (List.replicate (width + 2) '-')) ++ "+"

def framedLine (widths : List Nat) (texts : List String) : String :=
  String.join (List.zipWith (fun width text => "| " ++ padded width text ++ " ") widths texts) ++ "|"

/-- The names, then one line for each row, between rules. The last line is not ended. -/
def text (table : Table) : String :=
  let widths := table.columns.map Column.width
  "\n".intercalate
    ([rule widths, framedLine widths table.names, rule widths]
      ++ table.rows.map (fun row => framedLine widths (row.map Value.text))
      ++ [rule widths])

end Table

end CubeQuery
