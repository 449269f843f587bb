import CubeQuery.Plan.Resolver

/-!
Lowering a scope with measures of the database to a statement. Tables are checked first, then fields
are resolved from the source of the rows to the filter on groups.
-/

namespace CubeQuery

mutual

def Criteria.lower (resolver : Resolver) : Criteria → Except QueryError TypedCriteria
  | .onField field condition => do return .onField (← resolver.resolve field) condition
  | .onPair left right type => do
    return .onPair (← resolver.resolve left) (← resolver.resolve right) type
  | .onMeasure measure condition =>
    if measure.isPrimitive then do return .onMeasure (← measure.lower resolver) condition
    else .error (.invalidQuery (.havingInMemory measure.label))
  | .logical type children => do return .logical type (← Criteria.lowerList resolver children)

def Criteria.lowerList (resolver : Resolver) : List Criteria → Except QueryError (List TypedCriteria)
  | [] => .ok []
  | child :: rest => do return (← child.lower resolver) :: (← Criteria.lowerList resolver rest)

def Criteria.lowerOption (resolver : Resolver) :
    Option Criteria → Except QueryError (Option TypedCriteria)
  | none => .ok none
  | some criteria => do return some (← criteria.lower resolver)

/-- Only a measure of the database can be lowered. -/
def Measure.lower (resolver : Resolver) : Measure → Except QueryError TypedMeasure
  | .aggregated label field aggregation criteria => do
    return .aggregated label (← resolver.resolve field) aggregation
      (← Criteria.lowerOption resolver criteria)
  | .expression label sql => .ok (.expression label sql)
  | .count label => .ok (.count label)
  | measure => .error (.incorrectPath (.computedInMemory measure.label))

end

mutual

def TableRef.lower (resolver : Resolver) : TableRef → Except QueryError TypedTable
  | ⟨name, joins⟩ => do
    return ⟨name, resolver.isVirtual name, ← TableRef.lowerJoins resolver joins⟩

def TableRef.lowerJoins (resolver : Resolver) : List Join → Except QueryError (List TypedJoin)
  | [] => .ok []
  | ⟨table, type, criteria⟩ :: rest => do
    let table ← table.lower resolver
    let criteria ← Criteria.lowerOption resolver criteria
    return ⟨table, type, criteria⟩ :: (← TableRef.lowerJoins resolver rest)

end

/-- The first table, depth first, that is neither virtual nor in the database. -/
def Datastore.checkTables (datastore : Datastore) (table : TableRef) (virtualTables : List VirtualTable) :
    Except QueryError Unit :=
  let isKnown (name : String) : Bool :=
    virtualTables.any (·.name = name) || (datastore.store? name).isSome
  match table.tableNames.find? fun name => !isKnown name with
  | some name => .error (.unknownTable name datastore.names)
  | none => .ok ()

namespace Scope

/-- Lowers a scope, given the statement of its sub-query. -/
def lowerOver (datastore : Datastore) (scope : Scope) (measures : List Measure)
    (inner : Except QueryError Statement) : Except QueryError Statement := do
  if let some table := scope.table then
    datastore.checkTables table scope.virtualTables
  let resolver ← Resolver.ofScope datastore scope
  let (table, subQuery) ←
    match scope.table, scope.subQuery with
    | some table, none => do pure (some (← table.lower resolver), none)
    | none, some query => do
      if query.bucketSet.isSome then throw (.invalidQuery .columnSetInSubQuery)
      pure (none, some (← inner))
    | some _, some _ => throw (.invalidQuery .twoSources)
    | none, none => throw (.invalidQuery .noSource)
  return {
    table
    subQuery
    virtualTables := scope.virtualTables
    select := ← scope.columns.mapM resolver.resolve
    rollup := ← scope.rollup.mapM resolver.resolve
    groupingSets := ← scope.groupingSets.mapM fun set => set.mapM resolver.resolve
    measures := ← measures.mapM (Measure.lower resolver)
    whereCriteria := ← Criteria.lowerOption resolver scope.whereCriteria
    havingCriteria := ← Criteria.lowerOption resolver scope.havingCriteria
    limit := scope.limit
  }

end Scope

/-- Lowers a sub-query with its own measures. -/
def Query.lower (datastore : Datastore) : Query → Except QueryError Statement
  | ⟨table, subQuery, columns, rollup, groupingSets, bucketSet, measures, whereCriteria,
      havingCriteria, orders, limit, virtualTables, parameters⟩ =>
    (Scope.ofQuery ⟨table, subQuery, columns, rollup, groupingSets, bucketSet, measures,
      whereCriteria, havingCriteria, orders, limit, virtualTables, parameters⟩).lowerOver datastore
        measures
        (match subQuery with
          | some query => query.lower datastore
          | none => .error (.invalidQuery .noSource))

/-- The statement that computes measures of the database for a scope. -/
def Scope.lower (datastore : Datastore) (scope : Scope) (measures : List Measure) :
    Except QueryError Statement :=
  scope.lowerOver datastore measures
    (match scope.subQuery with
      | some query => query.lower datastore
      | none => .error (.invalidQuery .noSource))

end CubeQuery
