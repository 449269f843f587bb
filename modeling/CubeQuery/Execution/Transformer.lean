import CubeQuery.Value

/-!
Transformers reduce the vector of a row to one value. They are known by name.
-/

namespace CubeQuery.Transformer

def length (elements : List Value) : Value := .int (.ofNat elements.length)

def first (elements : List Value) : Value := elements.head?.getD .null

def last (elements : List Value) : Value := elements.getLast?.getD .null

/-- The transformer of a name; a name without one keeps the vector. -/
def named : String → List Value → Value
  | "len" => length
  | "first" => first
  | "last" => last
  | _ => .list

end CubeQuery.Transformer
