import CubeQuery.Value

/-!
What a value tells a hasher: its kind and then its content, a list first the number of its items.
-/

namespace CubeQuery

/-- One thing that a hasher is told. -/
inductive HashPart where
  | kind (place : Nat)
  | flag (value : Bool)
  | int (value : Int64)
  | bits (value : UInt64)
  | text (value : String)
  | count (items : Nat)
deriving DecidableEq

namespace Value

mutual

def hashParts : Value → List HashPart
  | .null => [.kind 0]
  | .bool b => [.kind 1, .flag b]
  | .int n => [.kind 2, .int n]
  | .float x => [.kind 3, .bits x.bits]
  | .str s => [.kind 4, .text s]
  | .list items => .kind 5 :: .count items.length :: itemsHashParts items

def itemsHashParts : List Value → List HashPart
  | [] => []
  | item :: items => item.hashParts ++ itemsHashParts items

end

/-- What several cells tell a hasher as one key. -/
def keyHashParts (cells : List Value) : List HashPart := .count cells.length :: itemsHashParts cells

end Value

end CubeQuery
