import CubeQuery.Double.Reading
import CubeQuery.Text.HexDigit
import CubeQuery.Toml

/-!
Numbers, truth values and moments of TOML, each written as one word.
-/

namespace CubeQuery.Toml

open CubeQuery.Text

/-- Digits, between which single underscores may stand. -/
def groupedDigits? (isDigit : Char → Bool) : List Char → Option (List Char)
  | [] => none
  | [c] => if isDigit c then some [c] else none
  | c :: '_' :: rest => if isDigit c then (groupedDigits? isDigit rest).map (c :: ·) else none
  | c :: rest => if isDigit c then (groupedDigits? isDigit rest).map (c :: ·) else none

/-! ### Numbers -/

/-- A whole number in base ten, which does not begin with a needless zero. -/
def wholeNumber? (s : List Char) : Option Nat :=
  match groupedDigits? isAsciiDigit s with
  | some ['0'] => some 0
  | some ('0' :: _) => none
  | some digits => some (decimalValue digits)
  | none => none

def numberInBase? (base : Nat) (s : List Char) : Option Nat :=
  (groupedDigits? (isDigitOf base) s).map (valueInBase base)

def anyInteger? : List Char → Option Int
  | '0' :: 'x' :: digits => (numberInBase? 16 digits).map Int.ofNat
  | '0' :: 'o' :: digits => (numberInBase? 8 digits).map Int.ofNat
  | '0' :: 'b' :: digits => (numberInBase? 2 digits).map Int.ofNat
  | s =>
    let (negative, digits) := takeSign s
    (wholeNumber? digits).map fun n => if negative then -(n : Int) else n

/-- An integer, which may take 128 bits, signed or not. -/
def integer? (s : List Char) : Option Toml :=
  (anyInteger? s).map fun n =>
    if -(Nat.pow 2 127 : Int) ≤ n ∧ n < (Nat.pow 2 128 : Int) then .integer n else .overflow

/-- What stands before and after the first of some marks; nothing after it if there is none. -/
def splitAtMark (isMark : Char → Bool) (s : List Char) : List Char × Option (List Char) :=
  (s.takeWhile (!isMark ·), (s.dropWhile (!isMark ·)).tail?)

def isDigits (s : List Char) : Bool := (groupedDigits? isAsciiDigit s).isSome

/-- The form of a float: a whole number with a fraction, with an exponent or with both. -/
def isFloat (s : List Char) : Bool :=
  let (mantissa, exponent) := splitAtMark (fun c => c == 'e' || c == 'E') (takeSign s).2
  let (whole, fraction) := splitAtMark (· == '.') mantissa
  (wholeNumber? whole).isSome && fraction.all isDigits && (exponent.all fun s => isDigits (takeSign s).2)
    && (fraction.isSome || exponent.isSome)

def isNamedFloat (s : List Char) : Bool :=
  (takeSign s).2 == "inf".toList || (takeSign s).2 == "nan".toList

/-- A float; only infinity itself may be infinite. -/
def float? (s : List Char) : Option Toml :=
  if isNamedFloat s then (Double.read? (String.ofList s)).map .float
  else if isFloat s then
    (Double.read? (String.ofList (s.filter (· != '_')))).map fun x =>
      if x.isFinite then .float x else .overflow
  else none

/-! ### Moments -/

/-- A number of exactly the given count of digits, at the start of a text. -/
def fixedDigits? (count : Nat) (s : List Char) : Option (Nat × List Char) :=
  let digits := s.take count
  if digits.length = count ∧ digits.all isAsciiDigit then some (decimalValue digits, s.drop count)
  else none

def skip? (isExpected : Char → Bool) : List Char → Option (List Char)
  | c :: rest => if isExpected c then some rest else none
  | [] => none

def daysIn (year month : Nat) : Nat :=
  if month = 2 then
    if year % 4 = 0 ∧ (year % 100 ≠ 0 ∨ year % 400 = 0) then 29 else 28
  else if month = 4 ∨ month = 6 ∨ month = 9 ∨ month = 11 then 30
  else 31

/-- What follows a date at the start of a text. -/
def afterDate? (s : List Char) : Option (List Char) := do
  let (year, s) ← fixedDigits? 4 s
  let (month, s) ← fixedDigits? 2 (← skip? (· == '-') s)
  let (day, s) ← fixedDigits? 2 (← skip? (· == '-') s)
  if 1 ≤ month ∧ month ≤ 12 ∧ 1 ≤ day ∧ day ≤ daysIn year month then some s else none

def afterClock? (s : List Char) : Option (List Char) := do
  let (hour, s) ← fixedDigits? 2 s
  let (minute, s) ← fixedDigits? 2 (← skip? (· == ':') s)
  if hour < 24 ∧ minute < 60 then some s else none

/-- The fraction of a second has at least one digit. -/
def afterFraction? : List Char → Option (List Char)
  | '.' :: c :: rest => if isAsciiDigit c then some (rest.dropWhile isAsciiDigit) else none
  | '.' :: [] => none
  | s => some s

/-- What follows a time at the start of a text. Seconds may be left out. -/
def afterTime? (s : List Char) : Option (List Char) := do
  match ← afterClock? s with
  | ':' :: rest => do
    let (second, rest) ← fixedDigits? 2 rest
    if second ≤ 60 then afterFraction? rest else none
  | rest => some rest

def afterOffset? : List Char → Option (List Char)
  | [] => some []
  | c :: rest =>
    if c = 'Z' ∨ c = 'z' then some rest
    else if c = '+' ∨ c = '-' then afterClock? rest
    else none

def isDateSeparator (c : Char) : Bool := c == 'T' || c == 't' || c == ' '

def isMoment (s : List Char) : Bool :=
  match afterDate? s with
  | some [] => true
  | some (c :: rest) => isDateSeparator c && ((afterTime? rest).bind afterOffset?) == some []
  | none => afterTime? s == some []

def isDate (s : List Char) : Bool := afterDate? s == some []

/-! ### Words -/

def scalar? (word : List Char) : Option Toml :=
  if word = "true".toList then some (.bool true)
  else if word = "false".toList then some (.bool false)
  else if isMoment word then some (.moment (String.ofList word))
  else (integer? word).orElse fun _ => float? word

end CubeQuery.Toml
