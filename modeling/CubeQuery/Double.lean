/-!
Binary floating point numbers of 64 bits, held as their bit pattern.

Every finite number is a whole number of units of `2 ^ -1074`. Sums, products and quotients are
exact on units and are rounded once, half to even, so the arithmetic is ordinary arithmetic on
natural numbers and nothing about it is hidden in the machine.
-/

namespace CubeQuery

structure Double where
  bits : UInt64
deriving DecidableEq, Inhabited

namespace Double

/-- The bit pattern without its sign. -/
def magnitude (x : Double) : Nat := x.bits.toNat % Nat.pow 2 63

def isNegative (x : Double) : Bool := decide (Nat.pow 2 63 ≤ x.bits.toNat)

/-- The magnitude of infinity, larger than every finite one; NaNs lie above it. -/
def infinityMagnitude : Nat := 2047 * Nat.pow 2 52

def isNaN (x : Double) : Bool := decide (infinityMagnitude < x.magnitude)

def isInfinite (x : Double) : Bool := decide (x.magnitude = infinityMagnitude)

def isFinite (x : Double) : Bool := decide (x.magnitude < infinityMagnitude)

def isZero (x : Double) : Bool := decide (x.magnitude = 0)

def ofMagnitude (negative : Bool) (magnitude : Nat) : Double :=
  ⟨UInt64.ofNat (if negative then Nat.pow 2 63 + magnitude else magnitude)⟩

def zero : Double := ofMagnitude false 0

def negativeZero : Double := ofMagnitude true 0

def infinity (negative : Bool) : Double := ofMagnitude negative infinityMagnitude

/-- The NaN of an invalid operation on numbers. -/
def indefinite : Double := ofMagnitude true (infinityMagnitude + Nat.pow 2 51)

/-- The NaN that is written by name. -/
def nan : Double := ofMagnitude false (infinityMagnitude + Nat.pow 2 51)

/-- The quiet form of a NaN keeps its sign and payload. -/
def quiet (x : Double) : Double :=
  if x.magnitude / Nat.pow 2 51 % 2 = 1 then x else ofMagnitude x.isNegative (x.magnitude + Nat.pow 2 51)

def neg (x : Double) : Double := ofMagnitude (!x.isNegative) x.magnitude

/-! ### Units -/

/-- The number one in units. -/
def unitsPerOne : Nat := Nat.pow 2 1074

/-- The units of a finite magnitude. Read at `infinityMagnitude` it gives the first power of two
that is too large, which bounds the interval that rounds to the largest finite number. -/
def unitsOf (magnitude : Nat) : Nat :=
  if magnitude < Nat.pow 2 52 then magnitude
  else (Nat.pow 2 52 + magnitude % Nat.pow 2 52) * Nat.pow 2 (magnitude / Nat.pow 2 52 - 1)

def units (x : Double) : Nat := unitsOf x.magnitude

def signedUnits (x : Double) : Int := if x.isNegative then -(x.units : Int) else x.units

def roundHalfEven (num den : Nat) : Nat :=
  let quotient := num / den
  let twice := 2 * (num % den)
  if twice < den then quotient
  else if den < twice then quotient + 1
  else quotient + quotient % 2

/-- The magnitude nearest to `num / den` units. A significand that rounds up to the next power of
two carries into the exponent by itself, because the two fields are adjacent. -/
def roundUnits (num den : Nat) : Nat :=
  let shift := (num / den).log2 - 52
  min (shift * Nat.pow 2 52 + roundHalfEven num (den * Nat.pow 2 shift)) infinityMagnitude

def ofUnits (negative : Bool) (num den : Nat) : Double := ofMagnitude negative (roundUnits num den)

def ofInt (n : Int) : Double := ofUnits (decide (n < 0)) (n.natAbs * unitsPerOne) 1

/-- `digits * 10 ^ exponent`, rounded once. Exponents far outside the range are cut off before the
power is formed. -/
def ofDecimal (negative : Bool) (digits : Nat) (exponent : Int) : Double :=
  if digits = 0 then ofMagnitude negative 0
  else
    if 400 < exponent + (digits.log2 : Int) * 3 / 10 then infinity negative
    else if exponent + (digits.log2 : Int) / 3 < -400 then ofMagnitude negative 0
    else if 0 ≤ exponent then
      ofUnits negative (digits * Nat.pow 10 exponent.toNat * unitsPerOne) 1
    else ofUnits negative (digits * unitsPerOne) (Nat.pow 10 (-exponent).toNat)

/-- The integer that a finite whole number denotes. -/
def toInt? (x : Double) : Option Int :=
  if x.isFinite && x.units % unitsPerOne == 0 then
    some (if x.isNegative then -((x.units / unitsPerOne : Nat) : Int) else (x.units / unitsPerOne : Nat))
  else none

/-! ### Arithmetic -/

protected def add (x y : Double) : Double :=
  if x.isNaN then x.quiet
  else if y.isNaN then y.quiet
  else if x.isInfinite then
    if y.isInfinite && x.isNegative != y.isNegative then indefinite else x
  else if y.isInfinite then y
  else
    let total := x.signedUnits + y.signedUnits
    if total = 0 then ofMagnitude (x.isNegative && y.isNegative) 0
    else ofUnits (decide (total < 0)) total.natAbs 1

protected def sub (x y : Double) : Double :=
  if x.isNaN then x.quiet else if y.isNaN then y.quiet else x.add y.neg

protected def mul (x y : Double) : Double :=
  let negative := x.isNegative != y.isNegative
  if x.isNaN then x.quiet
  else if y.isNaN then y.quiet
  else if x.isInfinite || y.isInfinite then
    if x.isZero || y.isZero then indefinite else infinity negative
  else ofUnits negative (x.units * y.units) unitsPerOne

protected def div (x y : Double) : Double :=
  let negative := x.isNegative != y.isNegative
  if x.isNaN then x.quiet
  else if y.isNaN then y.quiet
  else if x.isInfinite then if y.isInfinite then indefinite else infinity negative
  else if y.isInfinite then ofMagnitude negative 0
  else if y.isZero then if x.isZero then indefinite else infinity negative
  else ofUnits negative (x.units * unitsPerOne) y.units

instance : Add Double := ⟨Double.add⟩
instance : Sub Double := ⟨Double.sub⟩
instance : Mul Double := ⟨Double.mul⟩
instance : Div Double := ⟨Double.div⟩

/-! ### Order -/

/-- Negative patterns come before positive ones and in reverse, so the order is total, tells the
two zeros apart and puts NaNs at the ends. -/
def orderKey (x : Double) : Int :=
  if x.isNegative then -(x.magnitude : Int) - 1 else x.magnitude

instance : Ord Double := ⟨fun x y => compare x.orderKey y.orderKey⟩

theorem compare_swap (x y : Double) : compare x y = (compare y x).swap :=
  (Std.OrientedCmp.eq_swap : compare x.orderKey y.orderKey = (compare y.orderKey x.orderKey).swap)

end Double

end CubeQuery
