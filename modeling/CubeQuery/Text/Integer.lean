import CubeQuery.Checked
import CubeQuery.Text.DecimalDigit

/-!
Reading integers: an optional sign and at least one ASCII digit, and nothing else.
-/

namespace CubeQuery.Text

def natural? (digits : List Char) : Option Nat :=
  if !digits.isEmpty && digits.all isAsciiDigit then some (decimalValue digits) else none

def integer? : List Char → Option Int
  | '-' :: digits => (natural? digits).map fun n => -(n : Int)
  | '+' :: digits => (natural? digits).map Int.ofNat
  | digits => (natural? digits).map Int.ofNat

def int64? (s : List Char) : Option Int64 := (integer? s).bind checkedInt64?

end CubeQuery.Text
