import CubeQuery.Measure

/-!
Arithmetic between the cells of two measures. Integers stay integers as long as the result is one
that fits a word; what has no number for a result is null.
-/

namespace CubeQuery

def ofChecked : Option Int64 → Value
  | some n => .int n
  | none => .null

/-- The quotient of two numbers, null if the divisor is zero. -/
def quotient (a b : Double) : Value := if b.isZero then .null else .float (a / b)

def BinaryOperator.onInts (operator : BinaryOperator) (a b : Int64) : Value :=
  match operator with
  | .plus => ofChecked (checkedInt64? (a.toInt + b.toInt))
  | .minus => ofChecked (checkedInt64? (a.toInt - b.toInt))
  | .multiply => ofChecked (checkedInt64? (a.toInt * b.toInt))
  | .divide => quotient (.ofInt a.toInt) (.ofInt b.toInt)

def BinaryOperator.onDoubles (operator : BinaryOperator) (a b : Double) : Value :=
  match operator with
  | .plus => .float (a + b)
  | .minus => .float (a - b)
  | .multiply => .float (a * b)
  | .divide => quotient a b

def BinaryOperator.apply (operator : BinaryOperator) (left right : Value) : Value :=
  match left, right with
  | .int a, .int b => operator.onInts a b
  | left, right =>
    match left.asDouble?, right.asDouble? with
    | some a, some b => operator.onDoubles a b
    | _, _ => .null

def ComparisonMethod.onDoubles (method : ComparisonMethod) (current reference : Double) : Value :=
  match method with
  | .absoluteDifference => .float (current - reference)
  | .relativeDifference => quotient (current - reference) reference
  | .divide => quotient current reference

/-- Relates a value to its reference. -/
def ComparisonMethod.apply (method : ComparisonMethod) (current reference : Value) : Value :=
  match method, current, reference with
  | .absoluteDifference, .int a, .int b => ofChecked (checkedInt64? (a.toInt - b.toInt))
  | method, current, reference =>
    match current.asDouble?, reference.asDouble? with
    | some a, some b => method.onDoubles a b
    | _, _ => .null

end CubeQuery
