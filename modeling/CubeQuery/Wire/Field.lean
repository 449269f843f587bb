import CubeQuery.BucketSet
import CubeQuery.Condition
import CubeQuery.Period
import CubeQuery.Wire.Record

/-!
The wire form of values, fields, conditions, periods and bucket sets.
-/

namespace CubeQuery

open Wire

def FieldType.wireName : FieldType → String
  | .string => "STRING"
  | .int => "INT"
  | .long => "LONG"
  | .float => "FLOAT"
  | .double => "DOUBLE"
  | .boolean => "BOOLEAN"
  | .date => "DATE"
  | .timestamp => "TIMESTAMP"
  | .unknown => "UNKNOWN"

def FieldType.ofJson? : Json → Option FieldType := readConstant FieldType.all FieldType.wireName .text

namespace Value

mutual

def toJson : Value → Json
  | .null => .null
  | .bool b => .bool b
  | .int n => .int n.toInt
  | .float x => .real x
  | .str s => .str s
  | .list items => .arr (listToJson items)

def listToJson : List Value → List Json
  | [] => []
  | item :: items => item.toJson :: listToJson items

end

mutual

/-- An integer that is too large for a signed word is read as a float. -/
def ofJson? : Json → Option Value
  | .null => some .null
  | .bool b => some (.bool b)
  | .int n =>
    match checkedInt64? n with
    | some n => some (.int n)
    | none => some (.float (.ofInt n))
  | .real x => some (.float x)
  | .str s => some (.str s)
  | .arr items => (listOfJson? items).map .list
  | .obj _ | .unreadable => none

def listOfJson? : List Json → Option (List Value)
  | [] => some []
  | item :: items => do return (← ofJson? item) :: (← listOfJson? items)

end

end Value

namespace Field

def toJson : Field → Json
  | .table fullName label =>
    tagged "TableField" (("fullName", .str fullName) :: optionalMember "alias" (label.map .str))
  | .constant value => tagged "ConstantField" [("value", value.toJson)]
  | .function expression => tagged "FunctionField" [("expression", .str expression)]
  | .labelled label => tagged "AliasedField" [("alias", .str label)]

def kinds : List String := ["TableField", "ConstantField", "FunctionField", "AliasedField"]

def read (place : Place) (json : Json) : Option Field := do
  let (kind, content) ← untag? place kinds json
  match kind with
  | "TableField" =>
    let record ← Record.ofJson? ["fullName", "alias"] content
    return .table (← record.required "fullName" readString) (← record.optional "alias" readString)
  | "ConstantField" =>
    let record ← Record.ofJson? ["value"] content
    return .constant (← record.required "value" Value.ofJson?)
  | "FunctionField" =>
    let record ← Record.ofJson? ["expression"] content
    return .function (← record.required "expression" readString)
  | "AliasedField" =>
    let record ← Record.ofJson? ["alias"] content
    return .labelled (← record.required "alias" readString)
  | _ => none

def ofJson? : Json → Option Field := read .text

end Field

namespace ConditionType

def all : List ConditionType :=
  [.and, .or, .in, .eq, .neq, .lt, .le, .gt, .ge, .like, .null, .notNull]

def wireName : ConditionType → String
  | .and => "AND"
  | .or => "OR"
  | .in => "IN"
  | .eq => "EQ"
  | .neq => "NEQ"
  | .lt => "LT"
  | .le => "LE"
  | .gt => "GT"
  | .ge => "GE"
  | .like => "LIKE"
  | .null => "NULL"
  | .notNull => "NOT_NULL"

def toJson (type : ConditionType) : Json := .str type.wireName

def read : Place → Json → Option ConditionType := readConstant all wireName

def ofJson? : Json → Option ConditionType := read .text

end ConditionType

namespace Condition

def toJson (condition : Condition) : Json :=
  tagged condition.kind <|
    match condition with
    | .single type value => [("type", type.toJson), ("value", value.toJson)]
    | .inList type values => [("type", type.toJson), ("values", .arr (Value.listToJson values))]
    | .logical type one two => [("type", type.toJson), ("one", one.toJson), ("two", two.toJson)]
    | .constant type => [("type", type.toJson)]

def kinds : List String :=
  ["SingleValueConditionDto", "InConditionDto", "LogicalConditionDto", "ConstantConditionDto"]

/-- Reads a condition whose text is nested less deep than the first argument. -/
def readWithin : Nat → Place → Json → Option Condition
  | 0, _, _ => none
  | depth + 1, place, json => do
    let (kind, content) ← untag? place kinds json
    match kind with
    | "SingleValueConditionDto" =>
      let record ← Record.ofJson? ["type", "value"] content
      return .single (← record.required "type" (ConditionType.read .tagged))
        (← record.required "value" Value.ofJson?)
    | "InConditionDto" =>
      let record ← Record.ofJson? ["type", "values"] content
      return .inList (← record.required "type" (ConditionType.read .tagged))
        (← record.required "values" (readList Value.ofJson?))
    | "LogicalConditionDto" =>
      let record ← Record.ofJson? ["type", "one", "two"] content
      return .logical (← record.required "type" (ConditionType.read .tagged))
        (← record.required "one" (readWithin depth .tagged))
        (← record.required "two" (readWithin depth .tagged))
    | "ConstantConditionDto" =>
      let record ← Record.ofJson? ["type"] content
      return .constant (← record.required "type" (ConditionType.read .tagged))
    | _ => none

def read (place : Place) (json : Json) : Option Condition := readWithin (json.height + 1) place json

def ofJson? : Json → Option Condition := read .text

end Condition

namespace Period

def toJson : Period → Json
  | .year whole => tagged "Year" [("year", whole.toJson)]
  | .semester whole part => tagged "Semester" [("year", whole.toJson), ("semester", part.toJson)]
  | .quarter whole part => tagged "Quarter" [("year", whole.toJson), ("quarter", part.toJson)]
  | .month whole part => tagged "Month" [("year", whole.toJson), ("month", part.toJson)]

def kinds : List String := ["Year", "Semester", "Quarter", "Month"]

def read (place : Place) (json : Json) : Option Period := do
  let (kind, content) ← untag? place kinds json
  match kind with
  | "Year" =>
    let record ← Record.ofJson? ["year"] content
    return .year (← record.required "year" (Field.read .tagged))
  | "Semester" =>
    let record ← Record.ofJson? ["year", "semester"] content
    return .semester (← record.required "year" (Field.read .tagged))
      (← record.required "semester" (Field.read .tagged))
  | "Quarter" =>
    let record ← Record.ofJson? ["year", "quarter"] content
    return .quarter (← record.required "year" (Field.read .tagged))
      (← record.required "quarter" (Field.read .tagged))
  | "Month" =>
    let record ← Record.ofJson? ["year", "month"] content
    return .month (← record.required "year" (Field.read .tagged))
      (← record.required "month" (Field.read .tagged))
  | _ => none

def ofJson? : Json → Option Period := read .text

end Period

def ColumnSetKey.wireName : ColumnSetKey → String
  | .bucket => "BUCKET"

def ColumnSetKey.read : Place → Json → Option ColumnSetKey :=
  readConstant [.bucket] ColumnSetKey.wireName

namespace BucketSet

def toJson (set : BucketSet) : Json :=
  tagged "BucketColumnSetDto"
    [("name", .str set.name), ("field", set.field.toJson),
     ("values", .arr (set.buckets.map fun bucket =>
        .arr [.str bucket.name, .arr (Value.listToJson bucket.members)]))]

def ofJson? (json : Json) : Option BucketSet := do
  let (_, content) ← untag? .text ["BucketColumnSetDto"] json
  let record ← Record.ofJson? ["name", "field", "values"] content
  let buckets ← record.required "values" (readList (readPair readString (readList Value.ofJson?)))
  return ⟨← record.required "name" readString, ← record.required "field" (Field.read .tagged),
    buckets.map fun (name, members) => ⟨name, members⟩⟩

end BucketSet

end CubeQuery
