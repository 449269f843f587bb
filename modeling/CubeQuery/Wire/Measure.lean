import CubeQuery.Measure
import CubeQuery.Wire.Field

/-!
The wire form of measures and criteria. Criteria are one flat record without a tag; which of its
members are present tells the kind.
-/

namespace CubeQuery

open Wire

def BinaryOperator.wireName : BinaryOperator → String
  | .plus => "PLUS"
  | .minus => "MINUS"
  | .multiply => "MULTIPLY"
  | .divide => "DIVIDE"

def BinaryOperator.read : Place → Json → Option BinaryOperator :=
  readConstant [.plus, .minus, .multiply, .divide] BinaryOperator.wireName

def ComparisonMethod.wireName : ComparisonMethod → String
  | .absoluteDifference => "ABSOLUTE_DIFFERENCE"
  | .relativeDifference => "RELATIVE_DIFFERENCE"
  | .divide => "DIVIDE"

def ComparisonMethod.read : Place → Json → Option ComparisonMethod :=
  readConstant [.absoluteDifference, .relativeDifference, .divide] ComparisonMethod.wireName

def ComparisonMethod.ofJson? : Json → Option ComparisonMethod := read .text

def pairToJson (pair : Field × String) : Json := .arr [pair.1.toJson, .str pair.2]

def readFieldPairs : Json → Option (List (Field × String)) :=
  readList (readPair (Field.read .tagged) readString)

mutual

def Criteria.toJson : Criteria → Json
  | .onField field condition => .obj [("field", field.toJson), ("condition", condition.toJson)]
  | .onPair left right type =>
    .obj [("field", left.toJson), ("fieldOther", right.toJson), ("conditionType", type.toJson)]
  | .onMeasure measure condition =>
    .obj [("measure", measure.toJson), ("condition", condition.toJson)]
  | .logical type children =>
    .obj (("conditionType", type.toJson) :: listMember "children" (Criteria.listToJson children))

def Criteria.listToJson : List Criteria → List Json
  | [] => []
  | criteria :: rest => criteria.toJson :: Criteria.listToJson rest

def Criteria.optionToJson : Option Criteria → Option Json
  | none => none
  | some criteria => some criteria.toJson

def Measure.toJson : Measure → Json
  | .aggregated label field aggregation criteria =>
    tagged "AggregatedMeasure"
      (("alias", .str label) :: ("field", field.toJson) :: ("aggregationFunction", .str aggregation)
        :: optionalMember "criteria" (Criteria.optionToJson criteria))
  | .expression label sql => tagged "ExpressionMeasure" [("alias", .str label), ("expression", .str sql)]
  | .binary label operator left right =>
    tagged "BinaryOperationMeasure"
      [("alias", .str label), ("operator", .str operator.wireName), ("leftOperand", left.toJson),
       ("rightOperand", right.toJson)]
  | .count label => tagged "CountMeasure" [("alias", .str label)]
  | .comparison label method base positions period columnSet ancestors =>
    tagged "ComparisonMeasureReferencePosition"
      ([("alias", .str label), ("comparisonMethod", .str method.wireName), ("measure", base.toJson),
        ("referencePosition", .arr (positions.entries.map pairToJson))]
        ++ optionalMember "period" (period.map Period.toJson)
        ++ optionalMember "columnSetKey" (columnSet.map fun key => .str key.wireName)
        ++ optionalMember "ancestors" (ancestors.map fun fields => .arr (fields.map Field.toJson)))
  | .vector label components axis _ =>
    tagged "VectorTupleAggMeasure"
      [("alias", .str label), ("fieldToAggregateAndAggFunc", .arr (components.map pairToJson)),
       ("vectorAxis", axis.toJson)]
  | .ref label => tagged "MeasureRef" [("alias", .str label)]

end

/-- The flat record of criteria. -/
structure CriteriaRecord where
  field : Option Field
  fieldOther : Option Field
  measure : Option Measure
  condition : Option Condition
  conditionType : Option ConditionType
  children : List Criteria

/-- Two fields and an operator make a pair; a field, else a measure, goes with a condition; an
operator without field and measure makes a logical node. -/
def CriteriaRecord.criteria? (record : CriteriaRecord) : Option Criteria :=
  match record.field, record.fieldOther, record.conditionType with
  | some left, some right, some type => some (.onPair left right type)
  | field, _, type =>
    match field, record.measure, record.condition with
    | some field, _, some condition => some (.onField field condition)
    | _, some measure, some condition => some (.onMeasure measure condition)
    | none, none, _ => type.map fun type => .logical type record.children
    | _, _, _ => none

def Measure.kinds : List String :=
  ["AggregatedMeasure", "ExpressionMeasure", "BinaryOperationMeasure", "CountMeasure",
   "ComparisonMeasureReferencePosition", "VectorTupleAggMeasure", "MeasureRef"]

mutual

/-- Reads criteria whose text is nested less deep than the first argument. -/
def Criteria.readWithin : Nat → Place → Json → Option Criteria
  | 0, _, _ => none
  | depth + 1, place, json => do
    let record ← Record.ofJson?
      ["field", "fieldOther", "measure", "condition", "conditionType", "children"] json
    CriteriaRecord.criteria?
      ⟨← record.optional "field" (Field.read place),
       ← record.optional "fieldOther" (Field.read place),
       ← record.optional "measure" (Measure.readWithin depth place),
       ← record.optional "condition" (Condition.read place),
       ← record.optional "conditionType" (ConditionType.read place),
       ← record.withDefault "children" [] (readList (Criteria.readWithin depth place))⟩

def Measure.readWithin : Nat → Place → Json → Option Measure
  | 0, _, _ => none
  | depth + 1, place, json => do
    let (kind, content) ← untag? place Measure.kinds json
    match kind with
    | "AggregatedMeasure" =>
      let record ← Record.ofJson? ["alias", "field", "aggregationFunction", "criteria"] content
      return .aggregated (← record.required "alias" readString)
        (← record.required "field" (Field.read .tagged))
        (← record.required "aggregationFunction" readString)
        (← record.optional "criteria" (Criteria.readWithin depth .tagged))
    | "ExpressionMeasure" =>
      let record ← Record.ofJson? ["alias", "expression"] content
      return .expression (← record.required "alias" readString)
        (← record.required "expression" readString)
    | "BinaryOperationMeasure" =>
      let record ← Record.ofJson? ["alias", "operator", "leftOperand", "rightOperand"] content
      return .binary (← record.required "alias" readString)
        (← record.required "operator" (BinaryOperator.read .tagged))
        (← record.required "leftOperand" (Measure.readWithin depth .tagged))
        (← record.required "rightOperand" (Measure.readWithin depth .tagged))
    | "CountMeasure" =>
      let record ← Record.ofJson? ["alias"] content
      return .count (← record.required "alias" readString)
    | "ComparisonMeasureReferencePosition" =>
      let record ← Record.ofJson?
        ["alias", "comparisonMethod", "measure", "referencePosition", "period", "columnSetKey",
         "ancestors"] content
      return .comparison (← record.required "alias" readString)
        (← record.required "comparisonMethod" (ComparisonMethod.read .tagged))
        (← record.required "measure" (Measure.readWithin depth .tagged))
        (.ofList (← record.withDefault "referencePosition" [] readFieldPairs))
        (← record.optional "period" (Period.read .tagged))
        (← record.optional "columnSetKey" (ColumnSetKey.read .tagged))
        (← record.optional "ancestors" (readList (Field.read .tagged)))
    | "VectorTupleAggMeasure" =>
      let record ← Record.ofJson? ["alias", "fieldToAggregateAndAggFunc", "vectorAxis"] content
      return .vector (← record.required "alias" readString)
        (← record.required "fieldToAggregateAndAggFunc" readFieldPairs)
        (← record.required "vectorAxis" (Field.read .tagged)) none
    | "MeasureRef" =>
      let record ← Record.ofJson? ["alias"] content
      return .ref (← record.required "alias" readString)
    | _ => none

end

def Criteria.ofJson? (json : Json) : Option Criteria :=
  Criteria.readWithin (json.height + 1) .text json

def Measure.ofJson? (json : Json) : Option Measure :=
  Measure.readWithin (json.height + 1) .text json

end CubeQuery
