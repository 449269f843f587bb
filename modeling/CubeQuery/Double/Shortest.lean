import CubeQuery.Double

/-!
The shortest decimal that reads back as a given number. The numbers that round to a finite number
form an interval, closed exactly when its significand is even. On the grid of decimals with one,
two, up to seventeen digits, the first grid with a point in the interval is taken, and of two such
points the nearer one.
-/

namespace CubeQuery.Double

/-- The number `digits * 10 ^ exponent`. -/
structure Decimal where
  digits : Nat
  exponent : Int
deriving DecidableEq, Repr

/-- What decides between two decimals that are equally near. -/
inductive Tie where
  | up
  | even
deriving DecidableEq

def decimalLength (n : Nat) : Nat := (Nat.toDigits 10 n).length

/-- The power of ten just above a positive number given in units. -/
def decimalPlace (units : Nat) : Int :=
  (decimalLength (units * Nat.pow 10 400 / unitsPerOne) : Int) - 400

/-- Drops the zeros at the end of the digits; the first argument bounds how many there are. -/
def Decimal.trim : Nat → Decimal → Decimal
  | 0, d => d
  | bound + 1, d =>
    if d.digits % 10 = 0 ∧ d.digits ≠ 0 then
      Decimal.trim bound ⟨d.digits / 10, d.exponent + 1⟩
    else d

/-- The point of the grid of multiples of `10 ^ exponent` that reads back as `magnitude`. -/
def onGrid? (tie : Tie) (magnitude : Nat) (exponent : Int) : Option Decimal :=
  let spread := if exponent < 0 then Nat.pow 10 (-exponent).toNat else 1
  let step := if exponent < 0 then unitsPerOne else unitsPerOne * Nat.pow 10 exponent.toNat
  let exact := unitsOf magnitude * spread
  let low := (unitsOf (magnitude - 1) + unitsOf magnitude) * spread
  let high := (unitsOf magnitude + unitsOf (magnitude + 1)) * spread
  let within (digits : Nat) : Bool :=
    if magnitude % 2 = 0 then low ≤ 2 * digits * step && 2 * digits * step ≤ high
    else low < 2 * digits * step && 2 * digits * step < high
  let below := exact / step
  let under := exact - below * step
  let above := (below + 1) * step - exact
  match within below, within (below + 1) with
  | false, false => none
  | true, false => some ⟨below, exponent⟩
  | false, true => some ⟨below + 1, exponent⟩
  | true, true =>
    if under < above then some ⟨below, exponent⟩
    else if above < under then some ⟨below + 1, exponent⟩
    else match tie with
      | .up => some ⟨below + 1, exponent⟩
      | .even => some ⟨below + below % 2, exponent⟩

/-- Tries the grids from the coarsest on. -/
def firstGrid (tie : Tie) (magnitude : Nat) : Nat → Int → Decimal
  | 0, exponent => ⟨0, exponent⟩
  | count + 1, exponent =>
    (onGrid? tie magnitude exponent).getD (firstGrid tie magnitude count (exponent - 1))

/-- Seventeen digits always suffice; one grid more costs nothing. -/
def shortest (tie : Tie) (magnitude : Nat) : Decimal :=
  (firstGrid tie magnitude 18 (decimalPlace (unitsOf magnitude) - 1)).trim 20

/-- The digits of a decimal with its point at the place where the exponent puts it. -/
def Decimal.positional (d : Decimal) : String :=
  let text := toString d.digits
  if 0 ≤ d.exponent then text ++ String.ofList (List.replicate d.exponent.toNat '0')
  else
    let places := (-d.exponent).toNat
    let padded := List.replicate (places + 1 - text.length) '0' ++ text.toList
    String.ofList (padded.take (padded.length - places)) ++ "."
      ++ String.ofList (padded.drop (padded.length - places))

def signText (x : Double) : String := if x.isNegative then "-" else ""

/-- Plain text never has an exponent and keeps no fraction that is zero. -/
def text (x : Double) : String :=
  if x.isNaN then "NaN"
  else if x.isInfinite then x.signText ++ "inf"
  else if x.isZero then x.signText ++ "0"
  else x.signText ++ (shortest .up x.magnitude).positional

/-- One digit, a point and the rest, with the exponent and its sign always written. -/
def Decimal.scientific (d : Decimal) : String :=
  let text := toString d.digits
  let exponent := d.exponent + (text.length : Int) - 1
  let fraction := text.toList.drop 1
  String.ofList (text.toList.take 1)
    ++ (if fraction.isEmpty then "" else "." ++ String.ofList fraction)
    ++ "e" ++ (if 0 ≤ exponent then "+" else "-") ++ toString exponent.natAbs

/-- The literal of a finite number always shows that it is no integer: it has a point or an
exponent. It is positional from `1e-5` up to `1e16`. -/
def literal (x : Double) : String :=
  if x.isZero then x.signText ++ "0.0"
  else
    let d := shortest .even x.magnitude
    let place := d.exponent + (decimalLength d.digits : Int)
    if -5 < place ∧ place ≤ 16 then
      x.signText ++ d.positional ++ (if 0 ≤ d.exponent then ".0" else "")
    else x.signText ++ d.scientific

end CubeQuery.Double
