import CubeQuery.Double
import CubeQuery.Text.DecimalDigit

/-!
Reading doubles: a sign, then digits with or without a point among them and an exponent, or one of
the names of infinity and of NaN in any case. The value is rounded once.
-/

namespace CubeQuery.Double

open CubeQuery.Text

/-- A text in lower case where its letters are ASCII. -/
def lowerLetters (s : List Char) : String := String.ofList (s.map Char.toLower)

def readExponent : List Char → Option Int
  | [] => some 0
  | c :: rest =>
    if c = 'e' ∨ c = 'E' then
      let (negative, digits) := takeSign rest
      if digits.isEmpty || !digits.all isAsciiDigit then none
      else some (if negative then -(decimalValue digits : Int) else decimalValue digits)
    else none

def readDigits (negative : Bool) (s : List Char) : Option Double := do
  let whole := s.takeWhile isAsciiDigit
  let (fraction, rest) :=
    match s.dropWhile isAsciiDigit with
    | '.' :: rest => (rest.takeWhile isAsciiDigit, rest.dropWhile isAsciiDigit)
    | rest => ([], rest)
  if whole.isEmpty && fraction.isEmpty then none
  else
    let exponent ← readExponent rest
    return ofDecimal negative (decimalValue (whole ++ fraction)) (exponent - fraction.length)

def read? (text : String) : Option Double :=
  let (negative, rest) := takeSign text.toList
  match lowerLetters rest with
  | "inf" | "infinity" => some (infinity negative)
  | "nan" => some (if negative then nan.neg else nan)
  | _ => readDigits negative rest

end CubeQuery.Double
