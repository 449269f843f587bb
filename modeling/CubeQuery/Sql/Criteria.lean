import CubeQuery.Condition
import CubeQuery.Sql.TypedField

/-!
Criteria and database measures over typed fields, and their SQL. Criteria without leaves have no
SQL, and their clause is left out.
-/

namespace CubeQuery

mutual

inductive TypedCriteria where
  | onField (field : TypedField) (condition : Condition)
  | onPair (left right : TypedField) (type : ConditionType)
  | onMeasure (measure : TypedMeasure) (condition : Condition)
  | logical (type : ConditionType) (children : List TypedCriteria)

inductive TypedMeasure where
  | aggregated (label : String) (field : TypedField) (aggregation : String)
      (criteria : Option TypedCriteria)
  | expression (label : String) (sql : String)
  | count (label : String)

end

instance : Inhabited TypedMeasure := ⟨.count ""⟩

def TypedMeasure.label : TypedMeasure → String
  | .aggregated label _ _ _ | .expression label _ | .count label => label

namespace Condition

/-- Renders a condition on an expression; the literals come from what the expression is. -/
def render (expression : String) (literal : Value → Except QueryError String) :
    Condition → Except QueryError String
  | .single type value => do return expression ++ " " ++ type.infixText ++ " " ++ (← literal value)
  | .inList _ values => do
    return expression ++ " in (" ++ ", ".intercalate (← values.mapM literal) ++ ")"
  | .logical type one two => do
    let one ← one.render expression literal
    let two ← two.render expression literal
    return "(" ++ one ++ " " ++ type.infixText ++ " " ++ two ++ ")"
  | .constant type => .ok (expression ++ " " ++ type.infixText)

/-- A condition is checked as a whole before any of it is rendered. -/
def sql (expression : String) (literal : Value → Except QueryError String) (condition : Condition) :
    Except QueryError String := do
  condition.check
  condition.render expression literal

end Condition

def checkLogical (type : ConditionType) : Except QueryError Unit :=
  if type.isLogical then .ok () else .error (.unsupportedCondition "logical criteria" type)

def checkComparison (type : ConditionType) : Except QueryError Unit :=
  if type.isComparison then .ok () else .error (.unsupportedCondition "field comparison" type)

/-- The text between the parts of a logical node. -/
def separator (type : ConditionType) : String := " " ++ type.infixText ++ " "

mutual

def TypedCriteria.sql (dialect : Dialect) : TypedCriteria → Except QueryError (Option String)
  | .onField field condition => do
    let expression ← field.sql dialect
    return some (← condition.sql expression field.literal)
  | .onPair left right type => do
    checkComparison type
    return some ((← left.sql dialect) ++ separator type ++ (← right.sql dialect))
  | .onMeasure measure condition => do
    let expression ← measure.sql dialect
    return some (← condition.sql expression fun value => .ok value.text)
  | .logical type children => do
    checkLogical type
    match ← TypedCriteria.parts dialect children with
    | [] => return none
    | parts => return some ("(" ++ (separator type).intercalate parts ++ ")")

/-- The SQL of those criteria that have any. -/
def TypedCriteria.parts (dialect : Dialect) : List TypedCriteria → Except QueryError (List String)
  | [] => .ok []
  | child :: rest => do
    let part ← child.sql dialect
    let parts ← TypedCriteria.parts dialect rest
    return part.toList ++ parts

def TypedCriteria.optionSql (dialect : Dialect) : Option TypedCriteria → Except QueryError (Option String)
  | none => .ok none
  | some criteria => criteria.sql dialect

/-- The aggregate, without its label. -/
def TypedMeasure.sql (dialect : Dialect) : TypedMeasure → Except QueryError String
  | .aggregated _ field aggregation criteria => do
    let column ← field.sql dialect
    match ← TypedCriteria.optionSql dialect criteria with
    | some condition =>
      return aggregation ++ "(case when " ++ condition ++ " then " ++ column ++ " end)"
    | none => return aggregation ++ "(" ++ column ++ ")"
  | .expression _ sql => .ok sql
  | .count _ => .ok "count(*)"

end

/-- The parts of a conjunction need no parentheses after `on`. -/
def TypedCriteria.joinSql (dialect : Dialect) : TypedCriteria → Except QueryError (Option String)
  | .logical .and children => do
    match ← TypedCriteria.parts dialect children with
    | [] => return none
    | parts => return some ((separator .and).intercalate parts)
  | criteria => criteria.sql dialect

def TypedMeasure.selectSql (dialect : Dialect) (measure : TypedMeasure) : Except QueryError String := do
  return (← measure.sql dialect) ++ " as " ++ dialect.measureLabel measure.label

end CubeQuery
