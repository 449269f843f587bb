/-!
The operators of conditions.
-/

namespace CubeQuery

inductive ConditionType where
  | and
  | or
  | in
  | eq
  | neq
  | lt
  | le
  | gt
  | ge
  | like
  | null
  | notNull
deriving DecidableEq, Inhabited

namespace ConditionType

def infixText : ConditionType → String
  | .and => "and"
  | .or => "or"
  | .in => "in"
  | .eq => "="
  | .neq => "<>"
  | .lt => "<"
  | .le => "<="
  | .gt => ">"
  | .ge => ">="
  | .like => "like"
  | .null => "is null"
  | .notNull => "is not null"

/-- The name by which messages call an operator. -/
def title : ConditionType → String
  | .and => "And"
  | .or => "Or"
  | .in => "In"
  | .eq => "Eq"
  | .neq => "Neq"
  | .lt => "Lt"
  | .le => "Le"
  | .gt => "Gt"
  | .ge => "Ge"
  | .like => "Like"
  | .null => "Null"
  | .notNull => "NotNull"

/-- Comparisons of two operands. -/
def isComparison : ConditionType → Bool
  | .eq | .neq | .lt | .le | .gt | .ge | .like => true
  | _ => false

def isLogical : ConditionType → Bool
  | .and | .or => true
  | _ => false

def isNullTest : ConditionType → Bool
  | .null | .notNull => true
  | _ => false

end ConditionType

end CubeQuery
