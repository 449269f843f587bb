import CubeQuery.BucketSet
import CubeQuery.Condition
import CubeQuery.Period
import CubeQuery.SortedMap

/-!
Measures, the named values of result rows, and criteria, the predicates of queries. A measure may
restrict its rows by criteria, and criteria may speak of measures, so the two are one definition.
-/

namespace CubeQuery

inductive BinaryOperator where
  | plus
  | minus
  | multiply
  | divide
deriving DecidableEq

def BinaryOperator.symbol : BinaryOperator → String
  | .plus => "+"
  | .minus => "-"
  | .multiply => "*"
  | .divide => "/"

inductive ComparisonMethod where
  | absoluteDifference
  | relativeDifference
  | divide
deriving DecidableEq

def ComparisonMethod.title : ComparisonMethod → String
  | .absoluteDifference => "AbsoluteDifference"
  | .relativeDifference => "RelativeDifference"
  | .divide => "Divide"

mutual

inductive Criteria where
  | onField (field : Field) (condition : Condition)
  /-- Compares two fields, as joins do. -/
  | onPair (left right : Field) (type : ConditionType)
  | onMeasure (measure : Measure) (condition : Condition)
  | logical (type : ConditionType) (children : List Criteria)

inductive Measure where
  /-- `aggregation(field)` over the rows that meet the criteria. -/
  | aggregated (label : String) (field : Field) (aggregation : String) (criteria : Option Criteria)
  | expression (label : String) (sql : String)
  | binary (label : String) (operator : BinaryOperator) (left right : Measure)
  | count (label : String)
  /-- Relates a measure at a row to its value at the row that the positions lead to. -/
  | comparison (label : String) (method : ComparisonMethod) (base : Measure)
      (positions : SortedMap Field String) (period : Option Period)
      (columnSet : Option ColumnSetKey) (ancestors : Option (List Field))
  /-- The aggregates of a row's parts along an axis. The transformer is the name of a function that
  reduces the vector to one value; it is never written out. -/
  | vector (label : String) (components : List (Field × String)) (axis : Field)
      (transformer : Option String)
  /-- Another measure of the query. -/
  | ref (label : String)

end

namespace Measure

instance : Inhabited Measure := ⟨.ref ""⟩

def countLabel : String := "_contributors_count_"

def defaultCount : Measure := .count countLabel

def label : Measure → String
  | .aggregated label _ _ _ | .expression label _ | .binary label _ _ _ | .count label
  | .comparison label _ _ _ _ _ _ | .vector label _ _ _ | .ref label => label

/-- Whether the database computes the measure. -/
def isPrimitive : Measure → Bool
  | .aggregated _ _ _ _ | .expression _ _ | .count _ => true
  | _ => false

def expressionText : Measure → String
  | .aggregated _ field aggregation none => aggregation ++ "(" ++ field.name ++ ")"
  | .aggregated _ field aggregation (some _) => aggregation ++ "If(" ++ field.name ++ ", ...)"
  | .expression _ sql => sql
  | .binary _ operator left right => left.label ++ " " ++ operator.symbol ++ " " ++ right.label
  | .count _ => "count(*)"
  | .comparison _ method base positions _ _ ancestors =>
    method.title ++ "(" ++ base.label ++ ", ["
      ++ commaSeparated (positions.entries.map fun (field, position) => field.name ++ "=" ++ position)
      ++ "])"
      ++ match ancestors with
        | none => ""
        | some ancestors => " ancestors=[" ++ commaSeparated (ancestors.map Field.name) ++ "]"
  | .vector _ components axis _ =>
    "vector("
      ++ commaSeparated (components.map fun (field, aggregation) => aggregation ++ "(" ++ field.name ++ ")")
      ++ ") by " ++ axis.name
  | .ref label => label

def text (measure : Measure) : String := measure.label ++ " := " ++ measure.expressionText

end Measure

/-! ### Equality -/

mutual

def Criteria.decEq : (a b : Criteria) → Decidable (a = b)
  | .onField f c, .onField f' c' => decidable_of_iff (f = f' ∧ c = c') (by simp)
  | .onPair l r t, .onPair l' r' t' => decidable_of_iff (l = l' ∧ r = r' ∧ t = t') (by simp)
  | .onMeasure m c, .onMeasure m' c' =>
    have := Measure.decEq m m'
    decidable_of_iff (m = m' ∧ c = c') (by simp)
  | .logical t cs, .logical t' cs' =>
    have := Criteria.listDecEq cs cs'
    decidable_of_iff (t = t' ∧ cs = cs') (by simp)
  | .onField _ _, .onPair _ _ _ | .onField _ _, .onMeasure _ _ | .onField _ _, .logical _ _
  | .onPair _ _ _, .onField _ _ | .onPair _ _ _, .onMeasure _ _ | .onPair _ _ _, .logical _ _
  | .onMeasure _ _, .onField _ _ | .onMeasure _ _, .onPair _ _ _ | .onMeasure _ _, .logical _ _
  | .logical _ _, .onField _ _ | .logical _ _, .onPair _ _ _ | .logical _ _, .onMeasure _ _ => isFalse nofun

def Criteria.listDecEq : (as bs : List Criteria) → Decidable (as = bs)
  | [], [] => isTrue rfl
  | a :: as, b :: bs =>
    have := Criteria.decEq a b
    have := Criteria.listDecEq as bs
    decidable_of_iff (a = b ∧ as = bs) (by simp)
  | [], _ :: _ | _ :: _, [] => isFalse nofun

def Criteria.optionDecEq : (a b : Option Criteria) → Decidable (a = b)
  | none, none => isTrue rfl
  | some a, some b =>
    have := Criteria.decEq a b
    decidable_of_iff (a = b) (by simp)
  | none, some _ | some _, none => isFalse nofun

def Measure.decEq (a b : Measure) : Decidable (a = b) :=
  match a with
  | .aggregated label field aggregation criteria =>
    match b with
    | .aggregated label' field' aggregation' criteria' =>
      have := Criteria.optionDecEq criteria criteria'
      decidable_of_iff
        (label = label' ∧ field = field' ∧ aggregation = aggregation' ∧ criteria = criteria') (by simp)
    | .expression _ _ | .binary _ _ _ _ | .count _ | .comparison _ _ _ _ _ _ _ | .vector _ _ _ _
    | .ref _ => isFalse nofun
  | .expression label sql =>
    match b with
    | .expression label' sql' => decidable_of_iff (label = label' ∧ sql = sql') (by simp)
    | .aggregated _ _ _ _ | .binary _ _ _ _ | .count _ | .comparison _ _ _ _ _ _ _ | .vector _ _ _ _
    | .ref _ => isFalse nofun
  | .binary label operator left right =>
    match b with
    | .binary label' operator' left' right' =>
      have := Measure.decEq left left'
      have := Measure.decEq right right'
      decidable_of_iff (label = label' ∧ operator = operator' ∧ left = left' ∧ right = right') (by simp)
    | .aggregated _ _ _ _ | .expression _ _ | .count _ | .comparison _ _ _ _ _ _ _ | .vector _ _ _ _
    | .ref _ => isFalse nofun
  | .count label =>
    match b with
    | .count label' => decidable_of_iff (label = label') (by simp)
    | .aggregated _ _ _ _ | .expression _ _ | .binary _ _ _ _ | .comparison _ _ _ _ _ _ _
    | .vector _ _ _ _ | .ref _ => isFalse nofun
  | .comparison label method base positions period columnSet ancestors =>
    match b with
    | .comparison label' method' base' positions' period' columnSet' ancestors' =>
      have := Measure.decEq base base'
      decidable_of_iff
        (label = label' ∧ method = method' ∧ base = base' ∧ positions = positions'
          ∧ period = period' ∧ columnSet = columnSet' ∧ ancestors = ancestors') (by simp)
    | .aggregated _ _ _ _ | .expression _ _ | .binary _ _ _ _ | .count _ | .vector _ _ _ _
    | .ref _ => isFalse nofun
  | .vector label components axis transformer =>
    match b with
    | .vector label' components' axis' transformer' =>
      decidable_of_iff
        (label = label' ∧ components = components' ∧ axis = axis' ∧ transformer = transformer')
        (by simp)
    | .aggregated _ _ _ _ | .expression _ _ | .binary _ _ _ _ | .count _ | .comparison _ _ _ _ _ _ _
    | .ref _ => isFalse nofun
  | .ref label =>
    match b with
    | .ref label' => decidable_of_iff (label = label') (by simp)
    | .aggregated _ _ _ _ | .expression _ _ | .binary _ _ _ _ | .count _ | .comparison _ _ _ _ _ _ _
    | .vector _ _ _ _ => isFalse nofun

end

instance : DecidableEq Criteria := Criteria.decEq
instance : DecidableEq Measure := Measure.decEq

/-! ### Definitions without the names of transformers -/

mutual

def Criteria.plain : Criteria → Criteria
  | .onMeasure measure condition => .onMeasure measure.plain condition
  | .logical type children => .logical type (Criteria.plainList children)
  | criteria => criteria

def Criteria.plainList : List Criteria → List Criteria
  | [] => []
  | criteria :: rest => criteria.plain :: Criteria.plainList rest

def Criteria.plainOption : Option Criteria → Option Criteria
  | none => none
  | some criteria => some criteria.plain

def Measure.plain : Measure → Measure
  | .aggregated label field aggregation criteria =>
    .aggregated label field aggregation (Criteria.plainOption criteria)
  | .binary label operator left right => .binary label operator left.plain right.plain
  | .comparison label method base positions period columnSet ancestors =>
    .comparison label method base.plain positions period columnSet ancestors
  | .vector label components axis transformer =>
    .vector label components axis (transformer.map fun _ => "")
  | measure => measure

end

/-- Whether two measures are defined alike. Of a transformer it counts only that there is one. -/
def Measure.sameDefinition (a b : Measure) : Bool := decide (a.plain = b.plain)

end CubeQuery
