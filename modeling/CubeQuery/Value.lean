import CubeQuery.Checked
import CubeQuery.Double.Shortest
import CubeQuery.FieldType

/-!
Cells of tables and literals of queries.
-/

namespace CubeQuery

inductive Value where
  | null
  | bool (value : Bool)
  | int (value : Int64)
  | float (value : Double)
  | str (value : String)
  | list (items : List Value)
deriving Inhabited

namespace Value

mutual

protected def decEq : (a b : Value) → Decidable (a = b)
  | .null, .null => isTrue rfl
  | .bool a, .bool b => decidable_of_iff (a = b) (by simp)
  | .int a, .int b => decidable_of_iff (a = b) (by simp)
  | .float a, .float b => decidable_of_iff (a = b) (by simp)
  | .str a, .str b => decidable_of_iff (a = b) (by simp)
  | .list as, .list bs =>
    match Value.listDecEq as bs with
    | isTrue h => isTrue (congrArg Value.list h)
    | isFalse h => isFalse fun e => h (Value.list.inj e)
  | .null, .bool _ | .null, .int _ | .null, .float _ | .null, .str _ | .null, .list _
  | .bool _, .null | .bool _, .int _ | .bool _, .float _ | .bool _, .str _ | .bool _, .list _
  | .int _, .null | .int _, .bool _ | .int _, .float _ | .int _, .str _ | .int _, .list _
  | .float _, .null | .float _, .bool _ | .float _, .int _ | .float _, .str _ | .float _, .list _
  | .str _, .null | .str _, .bool _ | .str _, .int _ | .str _, .float _ | .str _, .list _
  | .list _, .null | .list _, .bool _ | .list _, .int _ | .list _, .float _ | .list _, .str _ =>
    isFalse nofun

protected def listDecEq : (as bs : List Value) → Decidable (as = bs)
  | [], [] => isTrue rfl
  | a :: as, b :: bs =>
    match Value.decEq a b with
    | isFalse h => isFalse fun e => h (List.cons.inj e).1
    | isTrue h =>
      match Value.listDecEq as bs with
      | isTrue t => isTrue (by rw [h, t])
      | isFalse t => isFalse fun e => t (List.cons.inj e).2
  | [], _ :: _ | _ :: _, [] => isFalse nofun

end

instance : DecidableEq Value := Value.decEq

/-- The cell that marks a total, whatever the type of its column. -/
def totalCell : String := "___total___"

def total : Value := .str totalCell

def isNull : Value → Bool
  | .null => true
  | _ => false

def isTotal : Value → Bool
  | .str text => text = totalCell
  | _ => false

def asString? : Value → Option String
  | .str text => some text
  | _ => none

/-- Whole numbers of any kind read as integers; a float past the ends of the range reads as the
nearer end. -/
def asInt64? : Value → Option Int64
  | .int n => some n
  | .float x => x.toInt?.map clampedInt64
  | .bool b => some (if b then 1 else 0)
  | _ => none

def asDouble? : Value → Option Double
  | .int n => some (.ofInt n.toInt)
  | .float x => some x
  | _ => none

/-- The type that a literal shows by itself. -/
def fieldType : Value → FieldType
  | .null | .list _ => .unknown
  | .bool _ => .boolean
  | .int _ => .long
  | .float _ => .double
  | .str _ => .string

mutual

def text : Value → String
  | .null => "null"
  | .bool b => if b then "true" else "false"
  | .int n => toString n.toInt
  | .float x => x.text
  | .str s => s
  | .list [] => "[]"
  | .list (item :: items) => "[" ++ item.text ++ itemsText items ++ "]"

def itemsText : List Value → String
  | [] => ""
  | item :: items => ", " ++ item.text ++ itemsText items

end

end Value

end CubeQuery
