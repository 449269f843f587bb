import CubeQuery.Memory.Row

/-!
Aggregates of rows in memory. Nulls are left out of every aggregate but the count of rows.
-/

namespace CubeQuery

/-- Sums are formed from the first number on; the sum of none is the negative zero. -/
def sumDoubles (numbers : List Double) : Double := numbers.foldl (· + ·) .negativeZero

def sumInts (values : List Value) : Int64 :=
  (values.filterMap Value.asInt64?).foldl (· + ·) 0

def doublesOf (values : List Value) : List Double := values.filterMap Value.asDouble?

def isInt : Value → Bool
  | .int _ => true
  | _ => false

/-- The first of the least values. -/
def leastValue : List Value → Value
  | [] => .null
  | value :: rest =>
    rest.foldl (fun least value => if compare value least == .lt then value else least) value

def greatestValue : List Value → Value
  | [] => .null
  | value :: rest =>
    rest.foldl (fun greatest value => if compare value greatest == .lt then greatest else value) value

def sumOf (values : List Value) : Value :=
  if values.isEmpty then .null
  else if values.all isInt then .int (sumInts values)
  else .float (sumDoubles (doublesOf values))

def averageOf (values : List Value) : Value :=
  if values.isEmpty then .null
  else .float (sumDoubles (doublesOf values) / .ofInt values.length)

/-- Applies an aggregation to values that are not null. -/
def aggregateValues (aggregation : String) (values : List Value) : Except QueryError Value :=
  match aggregation with
  | "count" => .ok (.int (.ofNat values.length))
  | "min" => .ok (leastValue values)
  | "max" => .ok (greatestValue values)
  | "sum" => .ok (sumOf values)
  | "avg" => .ok (averageOf values)
  | other => .error (.backend ("unsupported aggregate " ++ other))

def TypedMeasure.aggregate (rows : List Row) : TypedMeasure → Except QueryError Value
  | .count _ => .ok (.int (.ofNat rows.length))
  | .aggregated _ field aggregation criteria => do
    let selected ← TypedCriteria.select criteria rows
    aggregateValues aggregation
      ((selected.map fun row => row.read field).filter fun value => !value.isNull)
  | .expression _ sql => .error (.backend ("cannot evaluate expression " ++ sql))

end CubeQuery
