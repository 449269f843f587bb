/-!
Names of the columns that mark totals. A marker column is named after the field it speaks of, and
the field is read back from the name.
-/

namespace CubeQuery.GroupingMarker

def opening : List Char := "___grouping___".toList

def closing : List Char := "___".toList

def label (field : String) : String :=
  String.ofList (opening ++ field.toList ++ closing)

def stripStart? : List Char → List Char → Option (List Char)
  | [], s => some s
  | _ :: _, [] => none
  | p :: ps, c :: s => if p = c then stripStart? ps s else none

def stripEnd? (ending s : List Char) : Option (List Char) :=
  (stripStart? ending.reverse s.reverse).map List.reverse

/-- The field of a marker: not empty and on one line. -/
def field? (name : String) : Option String :=
  match (stripStart? opening name.toList).bind (stripEnd? closing) with
  | none => none
  | some field => if field.isEmpty || field.contains '\n' then none else some (String.ofList field)

def isMarker (name : String) : Bool := (field? name).isSome

end CubeQuery.GroupingMarker
