import CubeQuery.Field

/-!
Calendar periods and the columns that hold them.
-/

namespace CubeQuery

inductive Period where
  | year (year : Field)
  | semester (year semester : Field)
  | quarter (year quarter : Field)
  | month (year month : Field)
deriving DecidableEq

namespace Period

def yearField : Period → Field
  | .year column | .semester column _ | .quarter column _ | .month column _ => column

/-- The column of the part of a year, for periods shorter than a year. -/
def partField? : Period → Option Field
  | .year _ => none
  | .semester _ part | .quarter _ part | .month _ part => some part

/-- The coarser field first. -/
def fields (period : Period) : List Field := period.yearField :: period.partField?.toList

def perYear : Period → Nat
  | .year _ => 1
  | .semester _ _ => 2
  | .quarter _ _ => 4
  | .month _ _ => 12

end Period

end CubeQuery
