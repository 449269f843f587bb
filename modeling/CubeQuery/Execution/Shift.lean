import CubeQuery.Error
import CubeQuery.Text.Blank
import CubeQuery.Text.Integer

/-!
Reference positions:

    first         the first one
    y             the same one
    y-1, y + 2    the one so many places before or behind
-/

namespace CubeQuery

inductive Shift where
  | first
  | offset (places : Int64)
deriving DecidableEq

namespace Shift

open Text

def isNameStart (c : Char) : Bool := ('a' ≤ c && c ≤ 'z') || ('A' ≤ c && c ≤ 'Z') || c == '_'

def isNamePart (c : Char) : Bool := isNameStart c || isAsciiDigit c

/-- What follows the name that a position begins with, without blanks. -/
def afterName? : List Char → Option (List Char)
  | [] => none
  | c :: rest => if isNameStart c then some (trimStart (rest.dropWhile isNamePart)) else none

/-- Digits of any script are taken for an offset, but only ASCII digits are read. -/
def readOffset (position : String) (negative : Bool) (digits : List Char) : Except QueryError Shift :=
  if digits.isEmpty || !digits.all isDecimalDigit then .error (.invalidQuery (.invalidPosition position))
  else
    match int64? digits with
    | none => .error (.invalidQuery (.invalidOffset position))
    | some places => .ok (.offset (if negative then -places else places))

/-- Reads a position without blanks around it. -/
def parseTrimmed (position : String) : Except QueryError Shift :=
  if position = "first" then .ok .first
  else
    match afterName? position.toList with
    | none => .error (.invalidQuery (.invalidPosition position))
    | some [] => .ok (.offset 0)
    | some ('-' :: rest) => readOffset position true (trimStart rest)
    | some ('+' :: rest) => readOffset position false (trimStart rest)
    | some _ => .error (.invalidQuery (.invalidPosition position))

def parse (position : String) : Except QueryError Shift :=
  parseTrimmed (String.ofList (trim position.toList))

/-- The place that is reached from a place in a list of so many items. -/
def apply (shift : Shift) (index length : Nat) : Option Nat :=
  match shift with
  | .first => if 0 < length then some 0 else none
  | .offset places =>
    let shifted := (index : Int) + places.toInt
    if 0 ≤ shifted ∧ shifted < length then some shifted.toNat else none

end Shift

end CubeQuery
