import CubeQuery.Sha256
import CubeQuery.Wire.Query

/-!
Scopes: the shape of a query without its measures. Queries of one scope share one statement, and the
digest of a scope's text is its key.
-/

namespace CubeQuery

structure Scope where
  table : Option TableRef
  subQuery : Option Query
  columns : List Field
  rollup : List Field
  groupingSets : List (List Field)
  bucketSet : Option BucketSet
  whereCriteria : Option Criteria
  havingCriteria : Option Criteria
  limit : Option Nat
  virtualTables : List VirtualTable
deriving DecidableEq

namespace Scope

def ofQuery (query : Query) : Scope where
  table := query.table
  subQuery := query.subQuery
  columns := query.columns
  rollup := query.rollup
  groupingSets := query.groupingSets
  bucketSet := query.bucketSet
  whereCriteria := query.whereCriteria
  havingCriteria := query.havingCriteria
  limit := query.limit
  virtualTables := query.virtualTables

def orNull : Option Json → Json
  | none => .null
  | some value => value

/-- Every member is written, `null` if it is absent. -/
def toJson (scope : Scope) : Json :=
  .obj
    [("table", orNull (scope.table.map TableRef.toJson)),
     ("subQuery", orNull (scope.subQuery.map Query.toJson)),
     ("columns", .arr (scope.columns.map Field.toJson)),
     ("rollupColumns", .arr (scope.rollup.map Field.toJson)),
     ("groupingSets", .arr (Query.fieldLists scope.groupingSets)),
     ("columnSets", .obj (scope.bucketSet.toList.map fun set =>
        (ColumnSetKey.bucket.wireName, set.toJson))),
     ("whereCriteria", orNull (scope.whereCriteria.map Criteria.toJson)),
     ("havingCriteria", orNull (scope.havingCriteria.map Criteria.toJson)),
     ("limit", orNull (scope.limit.map fun count => .int count)),
     ("virtualTables", .arr (scope.virtualTables.map VirtualTable.toJson))]

def key (scope : Scope) : ScopeKey := ⟨Sha256.hex scope.toJson.text⟩

/-- The scope whose rows serve as references: none of them are filtered after grouping. -/
def prefetch (scope : Scope) : Scope := { scope with havingCriteria := none, limit := none }

/-- The grouping columns of the result: that of the bucket set, then the selected ones. -/
def groupingNames (scope : Scope) : List String :=
  (scope.bucketSet.toList.map fun set => set.newColumn.name) ++ scope.columns.map Field.name

def hasColumn (scope : Scope) (field : Field) : Bool :=
  scope.columns.any fun column => column.name = field.name

def nameList (fields : List Field) : String := "[" ++ commaSeparated (fields.map Field.name) ++ "]"

def text (scope : Scope) : String :=
  (match scope.table, scope.subQuery with
    | some table, _ => "table=" ++ "+".intercalate table.tableNames
    | none, some _ => "table=(sub-query)"
    | none, none => "table=?")
  ++ ", columns=" ++ nameList scope.columns
  ++ (if scope.rollup.isEmpty then "" else ", rollup=" ++ nameList scope.rollup)
  ++ (if scope.groupingSets.isEmpty then ""
      else ", groupingSets=[" ++ commaSeparated (scope.groupingSets.map nameList) ++ "]")
  ++ (match scope.whereCriteria with
    | some criteria => ", where on " ++ nameList criteria.fields
    | none => "")
  ++ (if scope.havingCriteria.isSome then ", having" else "")
  ++ (match scope.limit with
    | some count => ", limit=" ++ toString count
    | none => "")

end Scope

/-- The key of a measure: the digest of its text. -/
def Measure.key (measure : Measure) : String := Sha256.hex measure.toJson.text

end CubeQuery
