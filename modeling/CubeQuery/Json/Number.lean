import CubeQuery.Json
import CubeQuery.Text.DecimalDigit

/-!
Number literals. An integer that fits a word stays an integer. Any other literal is a word of
leading digits times a power of ten, where the word, the power and their product or quotient are
each rounded to a double; digits past the word count only for the power.
-/

namespace CubeQuery.Json

open CubeQuery.Text

/-- A literal `[-]whole[.fraction][e[sign]exponent]`, taken apart. -/
structure Literal where
  negative : Bool
  whole : List Char
  fraction : Option (List Char)
  /-- Whether the exponent is negative, and its digits. -/
  exponent : Option (Bool × List Char)

def takeDigits (s : List Char) : List Char × List Char :=
  (s.takeWhile isAsciiDigit, s.dropWhile isAsciiDigit)

/-- Digits, of which there must be one. -/
def takeSomeDigits (s : List Char) : Option (List Char × List Char) :=
  let (digits, rest) := takeDigits s
  if digits.isEmpty then none else some (digits, rest)

def takeFraction : List Char → Option (Option (List Char) × List Char)
  | '.' :: rest => (takeSomeDigits rest).map fun (digits, rest) => (some digits, rest)
  | rest => some (none, rest)

def takeExponent : List Char → Option (Option (Bool × List Char) × List Char)
  | c :: rest =>
    if c = 'e' ∨ c = 'E' then
      let (negative, rest) := takeSign rest
      (takeSomeDigits rest).map fun (digits, rest) => (some (negative, digits), rest)
    else some (none, c :: rest)
  | [] => some (none, [])

/-- A whole part of several digits does not begin with a zero. -/
def isWholePart : List Char → Bool
  | [] => false
  | ['0'] => true
  | c :: _ => c != '0'

def Literal.parse? (s : List Char) : Option Literal := do
  let (negative, rest) := match s with
    | '-' :: rest => (true, rest)
    | rest => (false, rest)
  let (whole, rest) := takeDigits rest
  let (fraction, rest) ← takeFraction rest
  let (exponent, rest) ← takeExponent rest
  if isWholePart whole && rest.isEmpty then some ⟨negative, whole, fraction, exponent⟩ else none

def largestWord : Nat := Nat.pow 2 64 - 1

/-- Appends digits to a word while it stays one, and gives the digits that are left. -/
def absorb (word : Nat) : List Char → Nat × List Char
  | [] => (word, [])
  | c :: rest =>
    let longer := word * 10 + asciiDigitValue c
    if largestWord < longer then (word, c :: rest) else absorb longer rest

/-- The largest power of ten that is a double. -/
def largestPower : Nat := 308

def powerOfTen (exponent : Nat) : Double := .ofDecimal false 1 exponent

/-- `x * 10 ^ exponent` by one multiplication, or by divisions of at most `largestPower` places each. -/
def scale? (x : Double) (exponent : Int) : Option Double :=
  if 0 ≤ exponent then
    if exponent ≤ largestPower then
      let product := x * powerOfTen exponent.toNat
      if product.isInfinite then none else some product
    else if x.isZero then some x
    else none
  else if -(largestPower : Int) ≤ exponent then some (x / powerOfTen (-exponent).toNat)
  else if x.isZero then some x
  else scale? (x / powerOfTen largestPower) (exponent + largestPower)
termination_by (-exponent).toNat
decreasing_by simp only [largestPower] at *; omega

/-- The largest exponent that is counted; a longer one is past every number. -/
def largestExponent : Nat := Nat.pow 2 31 - 1

/-- The double of a literal, without its sign. -/
def Literal.magnitude? (literal : Literal) : Option Double :=
  let (word, past) := absorb 0 literal.whole
  let fraction := literal.fraction.getD []
  let (word, dropped) := absorb word fraction
  let place : Int := (past.length : Int) - ((fraction.length - dropped.length : Nat) : Int)
  match literal.exponent with
  | none => scale? (.ofInt word) place
  | some (negative, digits) =>
    let exponent := decimalValue digits
    if largestExponent < exponent then
      if word = 0 ∨ negative then some .zero else none
    else scale? (.ofInt word) (if negative then place - exponent else place + exponent)

def Literal.value (literal : Literal) : Json :=
  let whole := decimalValue literal.whole
  match literal.fraction, literal.exponent with
  | none, none =>
    if literal.negative then
      if whole = 0 then .real .negativeZero
      else if whole ≤ Nat.pow 2 63 then .int (-(whole : Int))
      else signed
    else if whole ≤ largestWord then .int whole
    else signed
  | _, _ => signed
where
  signed : Json :=
    match literal.magnitude? with
    | some x => .real (if literal.negative then x.neg else x)
    | none => .unreadable

end CubeQuery.Json
