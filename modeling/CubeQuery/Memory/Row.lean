import CubeQuery.Sql.Criteria
import CubeQuery.Value.Order

/-!
Rows in memory and the criteria that they meet. A null meets no condition on one value, and values
are compared by their order, so an integer never equals a float.
-/

namespace CubeQuery

/-- The cells of a row with the names of their columns. Of cells with one name the last counts. -/
abbrev Row := List (String × Value)

namespace Row

/-- Pairs names with cells, as far as both go. -/
def ofCells (names : List String) (cells : List Value) : Row := names.zip cells

def get (row : Row) (name : String) : Value := (row.reverse.lookup name).getD .null

/-- What a field reads. A qualifier is not looked at. -/
def read (row : Row) : TypedField → Value
  | .column _ name _ _ => row.get name
  | .labelled label _ => row.get label
  | .constant value => value
  | .function _ => .null

end Row

/-- Whether a comparison holds; patterns are not known in memory. -/
def ConditionType.holds (type : ConditionType) (value expected : Value) : Bool :=
  match type with
  | .eq => value = expected
  | .neq => value ≠ expected
  | .lt => compare value expected == .lt
  | .le => compare value expected != .gt
  | .gt => compare value expected == .gt
  | .ge => compare value expected != .lt
  | _ => false

def Condition.holds (value : Value) : Condition → Bool
  | .single type expected => !value.isNull && type.holds value expected
  | .inList _ values => values.contains value
  | .logical .or one two => one.holds value || two.holds value
  | .logical _ one two => one.holds value && two.holds value
  | .constant .null => value.isNull
  | .constant _ => !value.isNull

mutual

/-- Whether a row meets criteria. Only fields can be compared in memory. -/
def TypedCriteria.matches (row : Row) : TypedCriteria → Except QueryError Bool
  | .onField field condition => .ok (condition.holds (row.read field))
  | .logical type children => do
    let results ← TypedCriteria.matchesList row children
    return if type = .or then results.any id else results.all id
  | _ => .error (.backend "unsupported criteria")

def TypedCriteria.matchesList (row : Row) : List TypedCriteria → Except QueryError (List Bool)
  | [] => .ok []
  | child :: rest => do return (← child.matches row) :: (← TypedCriteria.matchesList row rest)

end

def TypedCriteria.matchesOption (row : Row) : Option TypedCriteria → Except QueryError Bool
  | none => .ok true
  | some criteria => criteria.matches row

/-- The rows that meet criteria. -/
def TypedCriteria.select (criteria : Option TypedCriteria) (rows : List Row) :
    Except QueryError (List Row) :=
  rows.filterM fun row => TypedCriteria.matchesOption row criteria

end CubeQuery
