/-!
Arithmetic on words of 64 bits that is done on integers and refused, or clamped, when the result is
no word.
-/

namespace CubeQuery

def smallestInt64 : Int := -(Nat.pow 2 63 : Int)

def largestInt64 : Int := (Nat.pow 2 63 : Int) - 1

def checkedInt64? (n : Int) : Option Int64 :=
  if smallestInt64 ≤ n ∧ n ≤ largestInt64 then some (.ofInt n) else none

def clampedInt64 (n : Int) : Int64 := .ofInt (max smallestInt64 (min largestInt64 n))

end CubeQuery
