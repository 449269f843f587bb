import CubeQuery.Construction
import CubeQuery.Wire.Exact
import CubeQuery.Wire.Query

/-!
Queries and their parts written as calls of the short forms. A call is a list of the name of the form
and its arguments. A call may be unreadable, or its parts may not fit together.
-/

namespace CubeQuery

inductive CallError where
  | unreadable
  | invalid (error : QueryError)

namespace Call

open Wire

abbrev Result (α : Type) := Except CallError α

variable {α : Type}

def readable : Option α → Result α
  | some value => .ok value
  | none => .error .unreadable

def argument (read : Json → Option α) (json : Json) : Result α := readable (read json)

def value : Json → Result Value := argument Value.ofExactJson?

def values : Json → Result (List Value) := argument (readList Value.ofExactJson?)

def list (read : Json → Result α) : Json → Result (List α)
  | .arr items => items.mapM read
  | _ => .error .unreadable

/-- A part given by its name, or by a call. -/
def nameOr (ofName : String → α) (read : Json → Result α) : Json → Result α
  | .str name => .ok (ofName name)
  | json => read json

/-! ### Fields -/

def fieldWithin : Nat → Json → Result Field
  | 0, _ => .error .unreadable
  | depth + 1, json =>
    match json with
    | .arr [.str "tf", .str name] => .ok (.ofName name)
    | .arr [.str "constant", constant] => (value constant).map .constant
    | .arr [.str "function", .str expression] => .ok (.function expression)
    | .arr [.str "aliased", .str label] => .ok (.labelled label)
    | .arr [.str "with_alias", field, .str label] => (fieldWithin depth field).map (·.withLabel label)
    | _ => .error .unreadable

def field (json : Json) : Result Field := fieldWithin (json.height + 1) json

def fields : Json → Result (List Field) := list (nameOr .ofName field)

/-- Pairs of a field and a text. -/
def fieldTexts : Json → Result (List (Field × String)) :=
  list fun
    | .arr [name, .str text] => (nameOr .ofName field name).map (·, text)
    | _ => .error .unreadable

/-! ### Conditions -/

def comparisons : List (String × (Value → Condition)) :=
  [("eq", .eq), ("neq", .neq), ("lt", .lt), ("le", .le), ("gt", .gt), ("ge", .ge)]

def conditionType : Json → Result ConditionType := argument ConditionType.ofJson?

def checked (condition : Condition) : Result Condition := condition.checked.mapError .invalid

def conditionWithin : Nat → Json → Result Condition
  | 0, _ => .error .unreadable
  | depth + 1, json =>
    match json with
    | .arr [.str "like", .str pattern] => .ok (.like pattern)
    | .arr [.str "is_in", items] => (values items).map .isIn
    | .arr [.str "in_list", items] => (values items).map .isIn
    | .arr [.str "is_null"] => .ok .isNull
    | .arr [.str "is_not_null"] => .ok .isNotNull
    | .arr [.str "and", one, two] => do
      return .both (← conditionWithin depth one) (← conditionWithin depth two)
    | .arr [.str "or", one, two] => do
      return .either (← conditionWithin depth one) (← conditionWithin depth two)
    | .arr [.str "single", type, constant] => do
      checked (.single (← conditionType type) (← value constant))
    | .arr [.str "logical", type, one, two] => do
      let type ← conditionType type
      checked (.logical type (← conditionWithin depth one) (← conditionWithin depth two))
    | .arr [.str "constant", type] => do checked (.constant (← conditionType type))
    | .arr [.str name, constant] => do return (← readable (comparisons.lookup name)) (← value constant)
    | _ => .error .unreadable

def condition (json : Json) : Result Condition := conditionWithin (json.height + 1) json

/-! ### Criteria and measures -/

def aggregations : List (String × (String → Field → Measure)) :=
  [("sum", .sum), ("avg", .avg), ("min", .min), ("max", .max)]

def operators : List (String × BinaryOperator) :=
  [("plus", .plus), ("minus", .minus), ("multiply", .multiply), ("divide", .divide)]

def comparisonMethod : Json → Result ComparisonMethod := argument ComparisonMethod.ofJson?

mutual

def criteriaWithin : Nat → Json → Result Criteria
  | 0, _ => .error .unreadable
  | depth + 1, json =>
    match json with
    | .arr [.str "criterion", one, test] => do return .onField (← field one) (← condition test)
    | .arr [.str "criterion_fields", left, right, type] => do
      return .onPair (← field left) (← field right) (← conditionType type)
    | .arr [.str "measure_criterion", measure, test] => do
      return .onMeasure (← measureWithin depth measure) (← condition test)
    | .arr [.str "all", children] => (list (criteriaWithin depth) children).map .all
    | .arr [.str "any", children] => (list (criteriaWithin depth) children).map .any
    | _ => .error .unreadable

def measureWithin : Nat → Json → Result Measure
  | 0, _ => .error .unreadable
  | depth + 1, json =>
    match json with
    | .arr [.str "count"] => .ok .defaultCount
    | .arr [.str "measure_ref", .str label] => .ok (.ref label)
    | .arr [.str "expression", .str label, .str sql] => .ok (.expression label sql)
    | .arr [.str "agg", .str label, one, .str aggregation] => do
      return .aggregated label (← field one) aggregation none
    | .arr [.str "agg_if", .str label, one, .str aggregation, criteria] => do
      return .aggregated label (← field one) aggregation (some (← criteriaWithin depth criteria))
    | .arr [.str "sum_if", .str label, one, criteria] => do
      return .sumIf label (← field one) (← criteriaWithin depth criteria)
    | .arr [.str "comparison_with_period", .str label, method, base, positions, period] => do
      return .overPeriod label (← comparisonMethod method) (← measureWithin depth base)
        (← fieldTexts positions) (← argument Period.ofJson? period)
    | .arr [.str "comparison_with_bucket", .str label, method, base, positions] => do
      return .overBuckets label (← comparisonMethod method) (← measureWithin depth base)
        (← fieldTexts positions)
    | .arr [.str "comparison_with_parent", .str label, method, base, ancestors] => do
      return .overParents label (← comparisonMethod method) (← measureWithin depth base) (← fields ancestors)
    | .arr (.str "vector_tuple_agg" :: .str label :: components :: axis :: _) => do
      return .vector label (← fieldTexts components) (← field axis) none
    | .arr [.str name, .str label, one] => do
      return (← readable (aggregations.lookup name)) label (← field one)
    | .arr [.str name, .str label, left, right] => do
      return .binary label (← readable (operators.lookup name)) (← measureWithin depth left)
        (← measureWithin depth right)
    | _ => .error .unreadable

end

def criteria (json : Json) : Result Criteria := criteriaWithin (json.height + 1) json

def measure (json : Json) : Result Measure := measureWithin (json.height + 1) json

/-! ### Queries -/

def order : Json → Result SortOrder
  | .arr [.str "asc"] => .ok (.simple .asc)
  | .arr [.str "desc"] => .ok (.simple .desc)
  | .arr [.str "explicit", items] => (values items).map .explicit
  | _ => .error .unreadable

def bucket : Json → Result Bucket
  | .arr [.str name, items] => (values items).map (⟨name, ·⟩)
  | _ => .error .unreadable

def table : Json → Result TableRef := nameOr .ofName (argument TableRef.ofJson?)

def joinType : Json → Result JoinType := argument JoinType.ofJson?

/-- A part of a query, added to those before it. -/
def part (query : Query) : Json → Result Query
  | .arr [.str "join", other, type] => do return query.join (← table other) (← joinType type) none
  | .arr [.str "join", other, type, on] => do
    return query.join (← table other) (← joinType type) (some (← criteria on))
  | .arr [.str "with_virtual_table", virtual] =>
    (argument VirtualTable.ofJson? virtual).map query.withVirtualTable
  | .arr [.str "where", test] => (criteria test).map query.filtered
  | .arr [.str "select", columns, measures] => do
    return query.selecting (← fields columns) (← list measure measures)
  | .arr [.str "column_set", .str name, source, buckets] => do
    return query.withBuckets ⟨name, ← field source, ← list bucket buckets⟩
  | .arr [.str "rollup", columns] => (fields columns).map query.rolledUp
  | .arr [.str "grouping_sets", sets] => (list fields sets).map query.groupedBy
  | .arr [.str "having", test] => (criteria test).map query.havingGroups
  | .arr [.str "order_by", column, how] => do return query.orderedBy (← field column) (← order how)
  | .arr [.str "limit", .int count] => .ok (query.limitedTo count.toNat)
  | .arr [.str "parameter", .str key, parameter] =>
    (argument Parameter.ofJson? parameter).map (query.withParameter key)
  | _ => .error .unreadable

def queryWithin : Nat → List Json → Result Query
  | depth + 1, .arr [.str "from_sub_query", .arr inner] :: parts => do
    parts.foldlM part (.ofSubQuery (← queryWithin depth inner))
  | _, .arr [.str "from", .str name] :: parts => parts.foldlM part (.ofTable name)
  | _, _ => .error .unreadable

/-- A query is a list of calls: its source and then its parts. -/
def query : Json → Result Query
  | .arr calls => queryWithin (Json.arr calls).height calls
  | _ => .error .unreadable

end Call

end CubeQuery
