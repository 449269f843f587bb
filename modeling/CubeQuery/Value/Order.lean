import CubeQuery.Value

/-!
The order of values: nulls, then truth values, numbers, texts and lists. Integers and floats are
ordered together by magnitude; an integer comes before the float it rounds to. Only identical values
compare as equal.
-/

namespace CubeQuery.Value

/-- The place of a value's kind among the kinds. -/
def rank : Value → Nat
  | .null => 0
  | .bool _ => 1
  | .int _ | .float _ => 2
  | .str _ => 3
  | .list _ => 4

mutual

protected def compare : Value → Value → Ordering
  | .null, .null => .eq
  | .bool a, .bool b => Ord.compare a b
  | .int a, .int b => Ord.compare a.toInt b.toInt
  | .float a, .float b => Ord.compare a b
  | .int a, .float b => (Ord.compare (Double.ofInt a.toInt) b).then .lt
  | .float a, .int b => (Ord.compare a (Double.ofInt b.toInt)).then .gt
  | .str a, .str b => Ord.compare a b
  | .list as, .list bs => Value.compareItems as bs
  | a, b => Ord.compare a.rank b.rank

protected def compareItems : List Value → List Value → Ordering
  | [], [] => .eq
  | [], _ :: _ => .lt
  | _ :: _, [] => .gt
  | a :: as, b :: bs => (Value.compare a b).then (Value.compareItems as bs)

end

instance : Ord Value := ⟨Value.compare⟩

mutual

theorem compare_swap (a b : Value) : Value.compare a b = (Value.compare b a).swap := by
  cases a <;> cases b <;> simp only [Value.compare, rank, Ordering.swap_then]
  case list.list as bs => exact compareItems_swap as bs
  case bool.bool => exact Std.OrientedCmp.eq_swap
  case int.int => exact Std.OrientedCmp.eq_swap
  case float.float => exact Double.compare_swap _ _
  case str.str => exact Std.OrientedCmp.eq_swap
  case int.float => rw [Double.compare_swap]; rfl
  case float.int => rw [Double.compare_swap]; rfl
  all_goals rfl

theorem compareItems_swap (as bs : List Value) :
    Value.compareItems as bs = (Value.compareItems bs as).swap := by
  cases as <;> cases bs <;> simp only [Value.compareItems, Ordering.swap_then]
  case cons.cons a as b bs => rw [compare_swap a b, compareItems_swap as bs]
  all_goals rfl

end

instance : Std.OrientedOrd Value where
  eq_swap := compare_swap _ _

end CubeQuery.Value
