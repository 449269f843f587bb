import CubeQuery.Query

/-!
Short forms for writing queries. A query is built up from its source by giving its parts one after
another; a part that is given again takes the place of the former, and what is a list grows.
-/

namespace CubeQuery

namespace Condition

def eq (value : Value) : Condition := .single .eq value

def neq (value : Value) : Condition := .single .neq value

def lt (value : Value) : Condition := .single .lt value

def le (value : Value) : Condition := .single .le value

def gt (value : Value) : Condition := .single .gt value

def ge (value : Value) : Condition := .single .ge value

def like (pattern : String) : Condition := .single .like (.str pattern)

def isIn (values : List Value) : Condition := .inList .in values

def isNull : Condition := .constant .null

def isNotNull : Condition := .constant .notNull

def both (one two : Condition) : Condition := .logical .and one two

def either (one two : Condition) : Condition := .logical .or one two

end Condition

namespace Criteria

def all (children : List Criteria) : Criteria := .logical .and children

def any (children : List Criteria) : Criteria := .logical .or children

end Criteria

namespace Measure

def sum (label : String) (field : Field) : Measure := .aggregated label field "sum" none

def avg (label : String) (field : Field) : Measure := .aggregated label field "avg" none

def min (label : String) (field : Field) : Measure := .aggregated label field "min" none

def max (label : String) (field : Field) : Measure := .aggregated label field "max" none

/-- The sum over the rows that meet the criteria. -/
def sumIf (label : String) (field : Field) (criteria : Criteria) : Measure :=
  .aggregated label field "sum" (some criteria)

/-- Compares a measure with itself at another place in the calendar. -/
def overPeriod (label : String) (method : ComparisonMethod) (base : Measure)
    (positions : List (Field × String)) (period : Period) : Measure :=
  .comparison label method base (.ofList positions) (some period) none none

/-- Compares a measure with itself at another bucket. -/
def overBuckets (label : String) (method : ComparisonMethod) (base : Measure)
    (positions : List (Field × String)) : Measure :=
  .comparison label method base (.ofList positions) none (some .bucket) none

/-- Compares a measure with its value for the parent. The finest ancestor comes first. -/
def overParents (label : String) (method : ComparisonMethod) (base : Measure) (ancestors : List Field) :
    Measure :=
  .comparison label method base .empty none none (some ancestors)

end Measure

namespace Query

def ofTable (name : String) : Query := { empty with table := some (.ofName name) }

def ofSubQuery (query : Query) : Query := { empty with subQuery := some query }

/-- Joins a table, which may have joins of its own, to the main table. -/
def join (query : Query) (other : TableRef) (type : JoinType) (criteria : Option Criteria) : Query :=
  { query with table := query.table.map fun table => table.join other type criteria }

def withVirtualTable (query : Query) (table : VirtualTable) : Query :=
  { query with virtualTables := query.virtualTables ++ [table] }

def filtered (query : Query) (criteria : Criteria) : Query := { query with whereCriteria := some criteria }

def selecting (query : Query) (columns : List Field) (measures : List Measure) : Query :=
  { query with columns, measures }

def withBuckets (query : Query) (set : BucketSet) : Query := { query with bucketSet := some set }

def rolledUp (query : Query) (columns : List Field) : Query := { query with rollup := columns }

def groupedBy (query : Query) (sets : List (List Field)) : Query := { query with groupingSets := sets }

def havingGroups (query : Query) (criteria : Criteria) : Query :=
  { query with havingCriteria := some criteria }

def orderedBy (query : Query) (field : Field) (order : SortOrder) : Query :=
  { query with orders := query.orders ++ [(field, order)] }

def limitedTo (query : Query) (count : Nat) : Query := { query with limit := some count }

def withParameter (query : Query) (key : String) (parameter : Parameter) : Query :=
  { query with parameters := query.parameters.insert key parameter }

end Query

end CubeQuery
