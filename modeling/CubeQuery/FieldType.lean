/-!
The declared types of columns. How a literal is quoted follows from the declared type of the column
it meets and never from the literal itself.
-/

namespace CubeQuery

inductive FieldType where
  | string
  | int
  | long
  | float
  | double
  | boolean
  | date
  | timestamp
  | unknown
deriving DecidableEq, Inhabited

namespace FieldType

def all : List FieldType :=
  [.string, .int, .long, .float, .double, .boolean, .date, .timestamp, .unknown]

def name : FieldType → String
  | .string => "string"
  | .int => "int"
  | .long => "long"
  | .float => "float"
  | .double => "double"
  | .boolean => "boolean"
  | .date => "date"
  | .timestamp => "timestamp"
  | .unknown => "unknown"

def isNumeric : FieldType → Bool
  | .int | .long | .float | .double => true
  | _ => false

end FieldType

end CubeQuery
