import CubeQuery.Execution.Shift
import CubeQuery.Plan.Scope

/-!
The way from a row to the row that it is compared with, as a map on points. There is no such point
where a cell is not of the kind that is shifted, or where the shift leads out of what there is.
-/

namespace CubeQuery

inductive Shifter where
  /-- Moves along a calendar. The columns of the year and of its part are places in a point. -/
  | period (year : Nat) (part : Option Nat) (perYear : Nat) (yearShift partShift : Int64)
  /-- Moves along the buckets and along the members of a bucket. -/
  | bucket (group member : Nat) (buckets : List Bucket) (groupShift memberShift : Shift)
  /-- Moves to the total of the first ancestor that is not one, the finest ancestor first. -/
  | parent (ancestors : List Nat)

namespace Shifter

/-! ### Construction -/

/-- The position that is written for a column. -/
def positionOf? (positions : SortedMap Field String) (name : String) : Option String :=
  (positions.entries.find? fun (field, _) => field.name = name).map (·.2)

def columnPlace (names : List String) (name : String) : Except QueryError Nat :=
  match names.idxOf? name with
  | some place => .ok place
  | none => .error (.table (.unknownColumn name))

/-- The shift of a column; one without a position keeps its place. -/
def shiftOf (positions : SortedMap Field String) (name : String) : Except QueryError Shift :=
  match positionOf? positions name with
  | some position => Shift.parse position
  | none => .ok (.offset 0)

/-- The shift of a column of a period, which is a number of places. -/
def offsetOf (label : String) (positions : SortedMap Field String) (name : String) :
    Except QueryError Int64 := do
  match ← shiftOf positions name with
  | .offset places => return places
  | .first => throw (.invalidQuery (.firstInPeriod label))

def keepsPlace (position : String) : Bool :=
  match Shift.parse position with
  | .ok shift => shift = .offset 0
  | .error _ => false

/-- Only the columns of the period may be shifted. -/
def checkPeriod (label : String) (period : Period) (positions : SortedMap Field String) :
    Except QueryError Unit :=
  let own := period.fields.map Field.name
  let moved := fun (field, position) => !own.contains (Field.name field) && !keepsPlace position
  match positions.entries.find? moved with
  | some (field, _) => .error (.invalidQuery (.shiftOutsidePeriod label field.name))
  | none => .ok ()

def ofPeriod (label : String) (period : Period) (positions : SortedMap Field String)
    (names : List String) : Except QueryError Shifter := do
  checkPeriod label period positions
  let year ← columnPlace names period.yearField.name
  let part ← period.partField?.mapM fun field => columnPlace names field.name
  let yearShift ← offsetOf label positions period.yearField.name
  let partShift ←
    match period.partField? with
    | some field => offsetOf label positions field.name
    | none => pure 0
  return .period year part period.perYear yearShift partShift

def ofBucketSet (set : BucketSet) (positions : SortedMap Field String) (names : List String) :
    Except QueryError Shifter := do
  return .bucket (← columnPlace names set.name) (← columnPlace names set.field.name) set.buckets
    (← shiftOf positions set.name) (← shiftOf positions set.field.name)

def ofAncestors (ancestors : List Field) (names : List String) : Shifter :=
  .parent (ancestors.filterMap fun ancestor => names.idxOf? ancestor.name)

/-- The shifter of a comparison between rows with the given grouping columns. -/
def ofComparison (scope : Scope) (label : String) (positions : SortedMap Field String)
    (period : Option Period) (columnSet : Option ColumnSetKey) (ancestors : Option (List Field))
    (names : List String) : Except QueryError Shifter :=
  match period, ancestors, columnSet with
  | some period, _, _ => ofPeriod label period positions names
  | none, some ancestors, _ => .ok (ofAncestors ancestors names)
  | none, none, some .bucket =>
    match scope.bucketSet with
    | some set => ofBucketSet set positions names
    | none => .error (.invalidQuery (.noBuckets label))
  | none, none, none => .error (.invalidQuery (.noReference label))

/-! ### Points -/

def cell (point : List Value) (place : Nat) : Value := point[place]?.getD .null

/-- The integer that a cell of a period holds. Totals hold none. -/
def integer? : Value → Option Int64
  | .str text => Text.int64? (Text.trim text.toList)
  | value => value.asInt64?

/-- An integer written as the given cell writes its own. -/
def writtenAs (like : Value) (n : Int) : Value :=
  match like with
  | .str _ => .str (toString n)
  | .float _ => .float (.ofInt n)
  | _ => .int (.ofInt n)

def checkedSum (a b : Int) : Option Int := (checkedInt64? (a + b)).map Int64.toInt

def checkedProduct (a b : Int) : Option Int := (checkedInt64? (a * b)).map Int64.toInt

/-- The shifted year. -/
def shiftedYear (year yearShift : Int64) : Option Int := checkedSum year.toInt yearShift.toInt

/-- The shifted place of a part of a year, parts counted from the year zero on. -/
def shiftedPart (perYear : Nat) (year part yearShift partShift : Int64) : Option Int := do
  let years ← shiftedYear year yearShift
  let parts ← checkedProduct years perYear
  let place ← checkedSum part.toInt (-1)
  let unshifted ← checkedSum parts place
  checkedSum unshifted partShift.toInt

def periodPoint (year : Nat) (part : Option Nat) (perYear : Nat) (yearShift partShift : Int64)
    (point : List Value) : Option (List Value) := do
  let yearNumber ← integer? (cell point year)
  match part with
  | none =>
    let shifted ← shiftedYear yearNumber yearShift
    return point.set year (writtenAs (cell point year) shifted)
  | some part =>
    let partNumber ← integer? (cell point part)
    let shifted ← shiftedPart perYear yearNumber partNumber yearShift partShift
    return (point.set year (writtenAs (cell point year) (shifted / perYear))).set part
      (writtenAs (cell point part) (shifted % perYear + 1))

def bucketPoint (group member : Nat) (buckets : List Bucket) (groupShift memberShift : Shift)
    (point : List Value) : Option (List Value) := do
  let name ← (cell point group).asString?
  let groupPlace ← buckets.findIdx? (·.name = name)
  let current ← buckets[groupPlace]?
  let memberPlace ← current.members.idxOf? (cell point member)
  let target ← buckets[← groupShift.apply groupPlace buckets.length]?
  let value ← target.members[← memberShift.apply memberPlace target.members.length]?
  return (point.set group (.str target.name)).set member value

def parentPoint (ancestors : List Nat) (point : List Value) : Option (List Value) := do
  let level ← ancestors.find? fun place => !(cell point place).isTotal
  return point.set level Value.total

/-- The point of the reference row. -/
def shift (shifter : Shifter) (point : List Value) : Option (List Value) :=
  match shifter with
  | .period year part perYear yearShift partShift =>
    periodPoint year part perYear yearShift partShift point
  | .bucket group member buckets groupShift memberShift =>
    bucketPoint group member buckets groupShift memberShift point
  | .parent ancestors => parentPoint ancestors point

end Shifter

end CubeQuery
