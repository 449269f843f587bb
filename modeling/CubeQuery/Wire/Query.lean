import CubeQuery.Json.Reader
import CubeQuery.Query
import CubeQuery.Wire.Measure

/-!
The wire form of queries and of the schema of a database.
-/

namespace CubeQuery

open Wire

namespace JoinType

def wireName : JoinType → String
  | .inner => "INNER"
  | .left => "LEFT"
  | .right => "RIGHT"
  | .full => "FULL"
  | .cross => "CROSS"

def ofJson? : Json → Option JoinType :=
  readConstant [.inner, .left, .right, .full, .cross] wireName .text

end JoinType

namespace TableRef

mutual

def toJson : TableRef → Json
  | ⟨name, joins⟩ => .obj [("name", .str name), ("joins", .arr (joinsToJson joins))]

def joinsToJson : List Join → List Json
  | [] => []
  | ⟨table, type, criteria⟩ :: rest =>
    .obj (("table", table.toJson) :: ("type", .str type.wireName)
      :: optionalMember "joinCriteria" (criteria.map Criteria.toJson)) :: joinsToJson rest

end

mutual

/-- Reads a table whose text is nested less deep than the first argument. -/
def ofJsonWithin? : Nat → Json → Option TableRef
  | 0, _ => none
  | depth + 1, json => do
    let record ← Record.ofJson? ["name", "joins"] json
    return ⟨← record.required "name" readString,
      ← record.withDefault "joins" [] (readList (joinOfJsonWithin? depth))⟩

def joinOfJsonWithin? : Nat → Json → Option Join
  | 0, _ => none
  | depth + 1, json => do
    let record ← Record.ofJson? ["table", "type", "joinCriteria"] json
    return ⟨← record.required "table" (ofJsonWithin? depth), ← record.required "type" JoinType.ofJson?,
      ← record.optional "joinCriteria" Criteria.ofJson?⟩

end

def ofJson? (json : Json) : Option TableRef := ofJsonWithin? (json.height + 1) json

end TableRef

namespace VirtualTable

def toJson (table : VirtualTable) : Json :=
  .obj [("name", .str table.name), ("fields", strings table.fields),
        ("records", .arr (table.records.map fun record => .arr (Value.listToJson record)))]

def ofJson? (json : Json) : Option VirtualTable := do
  let record ← Record.ofJson? ["name", "fields", "records"] json
  return ⟨← record.required "name" readString, ← record.required "fields" (readList readString),
    ← record.required "records" (readList (readList Value.ofJson?))⟩

end VirtualTable

namespace SortOrder

def directionName : Direction → String
  | .asc => "ASC"
  | .desc => "DESC"

def toJson : SortOrder → Json
  | .simple direction => tagged "SimpleOrderDto" [("order", .str (directionName direction))]
  | .explicit values => tagged "ExplicitOrderDto" [("explicit", .arr (Value.listToJson values))]

def ofJson? (json : Json) : Option SortOrder := do
  let (kind, content) ← untag? .text ["SimpleOrderDto", "ExplicitOrderDto"] json
  match kind with
  | "SimpleOrderDto" =>
    let record ← Record.ofJson? ["order"] content
    return .simple (← record.required "order" (readConstant [.asc, .desc] directionName .tagged))
  | "ExplicitOrderDto" =>
    let record ← Record.ofJson? ["explicit"] content
    return .explicit (← record.required "explicit" (readList Value.ofJson?))
  | _ => none

end SortOrder

namespace Parameter

def actionName : CacheAction → String
  | .use => "USE"
  | .notUse => "NOT_USE"
  | .invalidate => "INVALIDATE"

def toJson : Parameter → Json
  | .queryCache action => tagged "QueryCacheParameter" [("action", .str (actionName action))]

def ofJson? (json : Json) : Option Parameter := do
  let (_, content) ← untag? .text ["QueryCacheParameter"] json
  let record ← Record.ofJson? ["action"] content
  return .queryCache
    (← record.required "action" (readConstant [.use, .notUse, .invalidate] actionName .tagged))

end Parameter

/-- A map is an object whose members are all read; of members with one name the last wins. -/
def readMap {α : Type} (read : Json → Option α) : Json → Option (SortedMap String α)
  | .obj members => do
    let entries ← members.mapM fun (name, value) => (read value).map (name, ·)
    return .ofList entries
  | _ => none

def mapToJson {α : Type} (write : α → Json) (map : SortedMap String α) : Json :=
  .obj (map.entries.map fun (name, value) => (name, write value))

/-- Column sets are a map with one possible key. -/
def readColumnSets : Json → Option (Option BucketSet)
  | .obj members => do
    let sets ← members.mapM fun (name, value) =>
      if name = ColumnSetKey.bucket.wireName then BucketSet.ofJson? value else none
    return sets.getLast?
  | _ => none

namespace Query

def fieldLists (sets : List (List Field)) : List Json := sets.map fun set => .arr (set.map Field.toJson)

def toJson : Query → Json
  | ⟨table, subQuery, columns, rollup, groupingSets, bucketSet, measures, whereCriteria,
      havingCriteria, orders, limit, virtualTables, parameters⟩ =>
    .obj (optionalMember "table" (table.map TableRef.toJson)
      ++ optionalMember "subQuery" (match subQuery with | none => none | some query => some query.toJson)
      ++ [("columns", .arr (columns.map Field.toJson)), ("rollupColumns", .arr (rollup.map Field.toJson))]
      ++ listMember "groupingSets" (fieldLists groupingSets)
      ++ optionalMember "columnSets"
          (bucketSet.map fun set => .obj [(ColumnSetKey.bucket.wireName, set.toJson)])
      ++ [("measures", .arr (measures.map Measure.toJson))]
      ++ optionalMember "whereCriteriaDto" (whereCriteria.map Criteria.toJson)
      ++ optionalMember "havingCriteriaDto" (havingCriteria.map Criteria.toJson)
      ++ listMember "orders" (orders.map fun (field, order) => .arr [field.toJson, order.toJson])
      ++ optionalMember "limit" (limit.map fun count => .int count)
      ++ listMember "virtualTableDtos" (virtualTables.map VirtualTable.toJson)
      ++ if parameters.isEmpty then [] else [("parameters", mapToJson Parameter.toJson parameters)])

/-- Reads a query whose text is nested less deep than the first argument. -/
def ofJsonWithin? : Nat → Json → Option Query
  | 0, _ => none
  | depth + 1, json => do
    let record ← Record.ofJson?
      ["table", "subQuery", "columns", "rollupColumns", "groupingSets", "columnSets", "measures",
       "whereCriteriaDto", "havingCriteriaDto", "orders", "limit", "virtualTableDtos",
       "parameters"] json
    return ⟨← record.optional "table" TableRef.ofJson?,
      ← record.optional "subQuery" (ofJsonWithin? depth),
      ← record.withDefault "columns" [] (readList Field.ofJson?),
      ← record.withDefault "rollupColumns" [] (readList Field.ofJson?),
      ← record.withDefault "groupingSets" [] (readList (readList Field.ofJson?)),
      ← record.withDefault "columnSets" none readColumnSets,
      ← record.withDefault "measures" [] (readList Measure.ofJson?),
      ← record.optional "whereCriteriaDto" Criteria.ofJson?,
      ← record.optional "havingCriteriaDto" Criteria.ofJson?,
      ← record.withDefault "orders" [] (readList (readPair Field.ofJson? SortOrder.ofJson?)),
      ← record.optional "limit" readCount,
      ← record.withDefault "virtualTableDtos" [] (readList VirtualTable.ofJson?),
      ← record.withDefault "parameters" .empty (readMap Parameter.ofJson?)⟩

def ofJson? (json : Json) : Option Query := ofJsonWithin? (json.height + 1) json

def toText (query : Query) : String := query.toJson.text

def ofText? (text : String) : Option Query := (Json.read? text).bind ofJson?

end Query

namespace Datastore

def storeFieldToJson (field : StoreField) : Json :=
  .obj [("name", .str field.name), ("type", .str field.type.wireName)]

def storeToJson (store : Store) : Json :=
  .obj [("name", .str store.name), ("fields", .arr (store.fields.map storeFieldToJson))]

def toJson (datastore : Datastore) : Json := .obj [("stores", mapToJson storeToJson datastore.stores)]

def storeFieldOfJson? (json : Json) : Option StoreField := do
  let record ← Record.ofJson? ["name", "type"] json
  return ⟨← record.required "name" readString, ← record.required "type" FieldType.ofJson?⟩

def storeOfJson? (json : Json) : Option Store := do
  let record ← Record.ofJson? ["name", "fields"] json
  return ⟨← record.required "name" readString, ← record.required "fields" (readList storeFieldOfJson?)⟩

def ofJson? (json : Json) : Option Datastore := do
  let record ← Record.ofJson? ["stores"] json
  return ⟨← record.required "stores" (readMap storeOfJson?)⟩

end Datastore

end CubeQuery
