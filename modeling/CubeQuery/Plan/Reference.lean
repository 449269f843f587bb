import CubeQuery.Plan.Scope

/-!
The scopes that in-memory measures read: the rows to compare with, and the rows along an axis.
-/

namespace CubeQuery.Scope

/-- Periods are compared over rows that no criterion on the period has dropped. -/
def forPeriod (scope : Scope) (period : Period) : Scope :=
  { scope.prefetch with
    whereCriteria := scope.whereCriteria.bind (Criteria.withoutFields period.fields) }

/-- A rollup that ends with the ancestors, the coarsest first, so that every parent has a row. -/
def parentRollup (scope : Scope) (ancestors : List Field) : List Field :=
  scope.rollup.filter (fun field => !(ancestors.map Field.name).contains field.name)
    ++ ancestors.reverse.filterMap fun ancestor =>
      scope.columns.find? fun column => column.name = ancestor.name

def forParents (scope : Scope) (ancestors : List Field) : Scope :=
  { scope.prefetch with rollup := scope.parentRollup ancestors }

/-- The scope of the rows that a comparison refers to. A period comes before ancestors, and both
before a column set. -/
def forComparison (scope : Scope) (label : String) (period : Option Period)
    (columnSet : Option ColumnSetKey) (ancestors : Option (List Field)) : Except QueryError Scope :=
  match period, ancestors, columnSet with
  | some period, _, _ =>
    match period.fields.find? fun field => !scope.hasColumn field with
    | some missing => .error (.invalidQuery (.periodNotSelected missing.name label))
    | none => .ok (scope.forPeriod period)
  | none, some ancestors, _ =>
    if scope.groupingSets.isEmpty then .ok (scope.forParents ancestors)
    else .error (.invalidQuery (.parentWithGroupingSets label))
  | none, none, some .bucket =>
    if scope.bucketSet.isSome then .ok scope else .error (.invalidQuery (.noBuckets label))
  | none, none, none => .error (.invalidQuery (.noReference label))

/-- The rows of a scope, split along an axis. -/
def forVector (scope : Scope) (axis : Field) : Scope :=
  if scope.prefetch.hasColumn axis then scope.prefetch
  else { scope.prefetch with columns := scope.columns ++ [axis] }

end CubeQuery.Scope
