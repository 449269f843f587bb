import CubeQuery.Sql.Statement
import CubeQuery.Wire.Exact
import CubeQuery.Wire.Query

/-!
The wire form of statements. Records of typed fields, criteria and measures name their kind in the
member `kind`.
-/

namespace CubeQuery

open Wire

namespace Wire

def kindOf? (json : Json) : Option String :=
  match json with
  | .obj members =>
    match members.lookup "kind" with
    | some (.str kind) => some kind
    | _ => none
  | _ => none

/-- A list that may be left out. -/
def Record.list {α : Type} (record : Record) (name : String) (read : Json → Option α) :
    Option (List α) :=
  (record.optional name (readList read)).map (·.getD [])

end Wire

namespace TypedField

def orNull : Option String → Json
  | some text => .str text
  | none => .null

def toJson : TypedField → Json
  | .column store name type label =>
    .obj
      [("kind", .str "table"), ("name", .str name), ("type", .str type.wireName),
       ("store", orNull store), ("alias", orNull label)]
  | .constant value => .obj [("kind", .str "constant"), ("value", value.toExactJson)]
  | .function expression => .obj [("kind", .str "function"), ("expression", .str expression)]
  | .labelled label type =>
    .obj [("kind", .str "aliased"), ("alias", .str label), ("type", .str type.wireName)]

def ofJson? (json : Json) : Option TypedField := do
  let record ← Record.ofJson? ["name", "type", "store", "alias", "value", "expression"] json
  match ← kindOf? json with
  | "table" =>
    return .column (← record.optional "store" readString) (← record.required "name" readString)
      (← record.required "type" FieldType.ofJson?) (← record.optional "alias" readString)
  | "constant" => return .constant (← record.required "value" Value.ofExactJson?)
  | "function" => return .function (← record.required "expression" readString)
  | "aliased" =>
    return .labelled (← record.required "alias" readString) (← record.required "type" FieldType.ofJson?)
  | _ => none

end TypedField

mutual

/-- Reads criteria whose text is nested less deep than the first argument. -/
def TypedCriteria.ofJsonWithin? : Nat → Json → Option TypedCriteria
  | 0, _ => none
  | depth + 1, json => do
    let record ← Record.ofJson?
      ["field", "condition", "left", "right", "type", "measure", "children"] json
    match ← kindOf? json with
    | "field" =>
      return .onField (← record.required "field" TypedField.ofJson?)
        (← record.required "condition" Condition.ofJson?)
    | "pair" =>
      return .onPair (← record.required "left" TypedField.ofJson?)
        (← record.required "right" TypedField.ofJson?) (← record.required "type" ConditionType.ofJson?)
    | "measure" =>
      return .onMeasure (← record.required "measure" (TypedMeasure.ofJsonWithin? depth))
        (← record.required "condition" Condition.ofJson?)
    | "logical" =>
      return .logical (← record.required "type" ConditionType.ofJson?)
        (← record.list "children" (TypedCriteria.ofJsonWithin? depth))
    | _ => none

def TypedMeasure.ofJsonWithin? : Nat → Json → Option TypedMeasure
  | 0, _ => none
  | depth + 1, json => do
    let record ← Record.ofJson? ["alias", "field", "function", "criteria", "expression"] json
    let label ← record.required "alias" readString
    match ← kindOf? json with
    | "aggregated" =>
      return .aggregated label (← record.required "field" TypedField.ofJson?)
        (← record.required "function" readString)
        (← record.optional "criteria" (TypedCriteria.ofJsonWithin? depth))
    | "expression" => return .expression label (← record.required "expression" readString)
    | "count" => return .count label
    | _ => none

end

def TypedCriteria.ofJson? (json : Json) : Option TypedCriteria :=
  TypedCriteria.ofJsonWithin? (json.height + 1) json

def TypedMeasure.ofJson? (json : Json) : Option TypedMeasure :=
  TypedMeasure.ofJsonWithin? (json.height + 1) json

namespace TypedTable

mutual

def ofJsonWithin? : Nat → Json → Option TypedTable
  | 0, _ => none
  | depth + 1, json => do
    let record ← Record.ofJson? ["name", "cte", "joins"] json
    return ⟨← record.required "name" readString, ← record.withDefault "cte" false readFlag,
      ← record.list "joins" (joinOfJsonWithin? depth)⟩

def joinOfJsonWithin? : Nat → Json → Option TypedJoin
  | 0, _ => none
  | depth + 1, json => do
    let record ← Record.ofJson? ["table", "type", "criteria"] json
    return ⟨← record.required "table" (ofJsonWithin? depth), ← record.required "type" JoinType.ofJson?,
      ← record.optional "criteria" TypedCriteria.ofJson?⟩

end

def ofJson? (json : Json) : Option TypedTable := ofJsonWithin? (json.height + 1) json

end TypedTable

namespace Statement

def ofJsonWithin? : Nat → Json → Option Statement
  | 0, _ => none
  | depth + 1, json => do
    let record ← Record.ofJson?
      ["table", "sub_query", "virtual_tables", "select", "rollup", "grouping_sets", "measures",
       "where", "having", "limit"] json
    return {
      table := ← record.optional "table" TypedTable.ofJson?
      subQuery := ← record.optional "sub_query" (ofJsonWithin? depth)
      virtualTables := ← record.list "virtual_tables" VirtualTable.ofJson?
      select := ← record.list "select" TypedField.ofJson?
      rollup := ← record.list "rollup" TypedField.ofJson?
      groupingSets := ← record.list "grouping_sets" (readList TypedField.ofJson?)
      measures := ← record.list "measures" TypedMeasure.ofJson?
      whereCriteria := ← record.optional "where" TypedCriteria.ofJson?
      havingCriteria := ← record.optional "having" TypedCriteria.ofJson?
      limit := ← record.optional "limit" readCount
    }

def ofJson? (json : Json) : Option Statement := ofJsonWithin? (json.height + 1) json

end Statement

end CubeQuery
