import CubeQuery.Error
import CubeQuery.Sql.Dialect

/-!
Fields whose types are known, and the literals that they are compared with.
-/

namespace CubeQuery

inductive TypedField where
  /-- A column; the store is the qualifier that the query wrote. -/
  | column (store : Option String) (name : String) (type : FieldType) (label : Option String)
  | constant (value : Value)
  | function (expression : String)
  /-- An output of a sub-query. -/
  | labelled (label : String) (type : FieldType)
deriving DecidableEq, Inhabited

/-- Quotes inside of a text are not escaped. -/
def quoteText (text : String) : String := "'" ++ text ++ "'"

/-- A value as a literal of a column of the given type. -/
def quoteLiteral (type : FieldType) (value : Value) : Except QueryError String :=
  match type with
  | .string => .ok (quoteText value.text)
  | .date | .timestamp => .error (.unsupportedLiteralType type)
  | _ => .ok value.text

/-- A value as a literal by itself. -/
def plainLiteral : Value → String
  | .str text => quoteText text
  | value => value.text

namespace TypedField

def type : TypedField → FieldType
  | .column _ _ type _ | .labelled _ type => type
  | .constant value => value.fieldType
  | .function _ => .unknown

/-- The name of the field's column in results. -/
def name : TypedField → String
  | .column _ _ _ (some label) => label
  | .column (some store) bare _ none => store ++ "." ++ bare
  | .column none bare _ none => bare
  | .constant value => value.text
  | .function expression => expression
  | .labelled label _ => label

/-- The label that a select list has to spell out. -/
def label? : TypedField → Option String
  | .column _ _ _ label => label
  | _ => none

def sql (dialect : Dialect) : TypedField → Except QueryError String
  | .column (some store) bare _ _ => .ok (dialect.tableName store ++ "." ++ dialect.fieldName bare)
  | .column none bare _ _ => .ok (dialect.fieldName bare)
  | .constant value => .ok (plainLiteral value)
  | .function expression => .error (.incorrectPath (.sqlOfFunction expression))
  | .labelled label _ => .ok (dialect.fieldName label)

/-- A value as a literal to compare the field with. -/
def literal (field : TypedField) (value : Value) : Except QueryError String :=
  match field with
  | .column _ _ type _ | .labelled _ type => quoteLiteral type value
  | _ => .ok value.text

end TypedField

end CubeQuery
