import CubeQuery.Plan.Scope
import CubeQuery.Sql.Statement

/-!
Resolving the fields of a scope: to columns of its tables, of which virtual tables hide those of the
database with the same name, or to outputs of its sub-query.
-/

namespace CubeQuery

/-- A column with its type. -/
structure TypedName where
  name : String
  type : FieldType

def typeOf? (columns : List TypedName) (name : String) : Option FieldType :=
  (columns.find? (·.name = name)).map (·.type)

/-- A virtual column has the type of its first cell that is not null. -/
def VirtualTable.columnType (table : VirtualTable) (index : Nat) : FieldType :=
  match (table.records.filterMap (·[index]?)).find? fun value => !value.isNull with
  | some value => value.fieldType
  | none => .unknown

def VirtualTable.columns (table : VirtualTable) : List TypedName :=
  table.fields.mapIdx fun index name => ⟨name, table.columnType index⟩

structure Resolver where
  datastore : Datastore
  /-- The tables of the scope, the main one first. -/
  tables : List String
  virtualTables : List VirtualTable
  /-- The outputs of the sub-query, if there is one. -/
  outputs : Option (List TypedName)

namespace Resolver

/-- Of virtual tables with one name the last counts. -/
def virtual? (resolver : Resolver) (table : String) : Option VirtualTable :=
  resolver.virtualTables.reverse.find? (·.name = table)

def isVirtual (resolver : Resolver) (table : String) : Bool := (resolver.virtual? table).isSome

def typeIn? (resolver : Resolver) (column : String) (table : String) : Option FieldType :=
  match resolver.virtual? table with
  | some virtual => typeOf? virtual.columns column
  | none => ((resolver.datastore.store? table).bind (·.field? column)).map (·.type)

/-- A qualified column is looked up in its table alone, any other in the tables of the scope. -/
def columnType? (resolver : Resolver) (store : Option String) (column : String) : Option FieldType :=
  match store with
  | some store => resolver.typeIn? column store
  | none => resolver.tables.findSome? (resolver.typeIn? column)

/-- The type of what the inner query offers by a name. -/
def outputType (resolver : Resolver) (name : String) : FieldType :=
  (typeOf? (resolver.outputs.getD []) name).getD .unknown

def resolve (resolver : Resolver) (field : Field) : Except QueryError TypedField :=
  match field with
  | .table fullName label =>
    match resolver.outputs with
    | some outputs =>
      match typeOf? outputs fullName with
      | some type => .ok (.labelled fullName type)
      | none => .error (.unknownField fullName)
    | none =>
      let (store, column) := Field.splitQualified fullName
      match resolver.columnType? store column with
      | some type => .ok (.column store column type label)
      | none => .error (.unknownField fullName)
  | .constant value => .ok (.constant value)
  | .function expression => .ok (.function expression)
  | .labelled label => .ok (.labelled label (resolver.outputType label))

/-- What a query offers to the query around it: its columns and its measures. -/
def outputsOf (datastore : Datastore) : Query → Except QueryError (List TypedName)
  | ⟨table, subQuery, columns, _, _, _, measures, _, _, _, _, virtualTables, _⟩ => do
    let inner ←
      match subQuery with
      | none => pure none
      | some query => some <$> outputsOf datastore query
    let resolver : Resolver := ⟨datastore, table.elim [] TableRef.tableNames, virtualTables, inner⟩
    let columns ← columns.mapM fun column => do
      return (⟨column.name, (← resolver.resolve column).type⟩ : TypedName)
    return columns ++ measures.map fun measure =>
      match measure with
      | .count label => ⟨label, .long⟩
      | measure => ⟨measure.label, .unknown⟩

def ofScope (datastore : Datastore) (scope : Scope) : Except QueryError Resolver := do
  let outputs ← scope.subQuery.mapM (outputsOf datastore)
  return ⟨datastore, scope.table.elim [] TableRef.tableNames, scope.virtualTables, outputs⟩

end Resolver

end CubeQuery
