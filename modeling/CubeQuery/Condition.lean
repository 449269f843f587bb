import CubeQuery.Error

/-!
Conditions on one value. Every node declares an operator; `check` accepts the trees whose nodes
declare an operator that their kind supports.
-/

namespace CubeQuery

inductive Condition where
  | single (type : ConditionType) (value : Value)
  | inList (type : ConditionType) (values : List Value)
  | logical (type : ConditionType) (one two : Condition)
  | constant (type : ConditionType)
deriving DecidableEq, Inhabited

namespace Condition

def type : Condition → ConditionType
  | .single type _ | .inList type _ | .logical type _ _ | .constant type => type

/-- The tag of a condition's kind, on the wire and in messages. -/
def kind : Condition → String
  | .single _ _ => "SingleValueConditionDto"
  | .inList _ _ => "InConditionDto"
  | .logical _ _ _ => "LogicalConditionDto"
  | .constant _ => "ConstantConditionDto"

/-- Whether a node's kind supports the operator it declares. -/
def isSupported : Condition → Bool
  | .single type _ => type.isComparison
  | .inList type _ => type = .in
  | .logical type _ _ => type.isLogical
  | .constant type => type.isNullTest

/-- A node is checked before its parts, the first part before the second. -/
def check (condition : Condition) : Except QueryError Unit :=
  if condition.isSupported then
    match condition with
    | .logical _ one two => do one.check; two.check
    | _ => pure ()
  else throw (.unsupportedCondition condition.kind condition.type)

def checked (condition : Condition) : Except QueryError Condition := do
  condition.check
  return condition

def text : Condition → String
  | .single type value => type.infixText ++ " " ++ value.text
  | .inList _ values => "in " ++ (Value.list values).text
  | .logical type one two => "(" ++ one.text ++ " " ++ type.infixText ++ " " ++ two.text ++ ")"
  | .constant type => type.infixText

end Condition

end CubeQuery
