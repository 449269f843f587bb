import CubeQuery.Error
import CubeQuery.Value.Order

/-!
Fields: what a query selects, groups by or filters on.
-/

namespace CubeQuery

inductive Field where
  /-- A column, written `column` or `table.column`, with a label for its output. -/
  | table (fullName : String) (label : Option String)
  /-- A literal. -/
  | constant (value : Value)
  /-- An expression that is not computed by the database. -/
  | function (expression : String)
  /-- A column known by its label alone. -/
  | labelled (label : String)
deriving DecidableEq, Inhabited

namespace Field

def ofName (fullName : String) : Field := .table fullName none

def withLabel (field : Field) (label : String) : Field :=
  match field with
  | .table fullName _ => .table fullName (some label)
  | field => field

def name : Field → String
  | .table _ (some label) => label
  | .table fullName none => fullName
  | .constant value => value.text
  | .function expression => expression
  | .labelled label => label

def label? : Field → Option String
  | .table _ label => label
  | .labelled label => some label
  | _ => none

/-- Splits at the last point. -/
def splitQualified (fullName : String) : Option String × String :=
  let reversed := fullName.toList.reverse
  match reversed.dropWhile (· != '.') with
  | [] => (none, fullName)
  | _ :: qualifier =>
    (some (String.ofList qualifier.reverse), String.ofList (reversed.takeWhile (· != '.')).reverse)

/-- The column that a field reads, with the table it is qualified with. -/
def column : Field → Except QueryError (Option String × String)
  | .table fullName _ => .ok (splitQualified fullName)
  | .labelled label => .ok (none, label)
  | .constant value => .error (.incorrectPath (.columnOfConstant value))
  | .function expression => .error (.incorrectPath (.columnOfFunction expression))

def compareLabels : Option String → Option String → Ordering
  | none, none => .eq
  | none, some _ => .lt
  | some _, none => .gt
  | some a, some b => compare a b

def rank : Field → Nat
  | .table _ _ => 0
  | .constant _ => 1
  | .function _ => 2
  | .labelled _ => 3

protected def compare : Field → Field → Ordering
  | .table name label, .table name' label' => (compare name name').then (compareLabels label label')
  | .constant value, .constant value' => compare value value'
  | .function expression, .function expression' => compare expression expression'
  | .labelled label, .labelled label' => compare label label'
  | a, b => compare a.rank b.rank

instance : Ord Field := ⟨Field.compare⟩

theorem compareLabels_swap (a b : Option String) : compareLabels a b = (compareLabels b a).swap := by
  cases a <;> cases b <;> simp only [compareLabels]
  case some.some => exact Std.OrientedCmp.eq_swap
  all_goals rfl

theorem compare_swap (a b : Field) : Field.compare a b = (Field.compare b a).swap := by
  cases a <;> cases b <;> simp only [Field.compare, rank, Ordering.swap_then]
  case table.table name label name' label' =>
    have swapped : compare name name' = (compare name' name).swap := Std.OrientedCmp.eq_swap
    rw [swapped, compareLabels_swap label label']
  case constant.constant => exact Std.OrientedCmp.eq_swap
  case function.function => exact Std.OrientedCmp.eq_swap
  case labelled.labelled => exact Std.OrientedCmp.eq_swap
  all_goals rfl

instance : Std.OrientedOrd Field where
  eq_swap := compare_swap _ _

end Field

end CubeQuery
