import CubeQuery.Double.Shortest

/-!
JSON values and their compact text. An object keeps its members as they are written, repeated names
included, because what a repeated name means is decided by the record that reads it.
-/

namespace CubeQuery

inductive Json where
  | null
  | bool (value : Bool)
  | int (value : Int)
  | real (value : Double)
  | str (value : String)
  | arr (items : List Json)
  | obj (members : List (String × Json))
  /-- Well-formed text without a value: a number that is too large, half of a surrogate pair, or
  nesting that is too deep. It spoils every reader that meets it, but not one that skips it. -/
  | unreadable
deriving Inhabited

namespace Json

def hexDigit (n : Nat) : Char := if n < 10 then Char.ofNat (48 + n) else Char.ofNat (87 + n)

/-- Only quotes, backslashes and the controls below the space are escaped. -/
def escapeChar (c : Char) : List Char :=
  match c with
  | '"' => ['\\', '"']
  | '\\' => ['\\', '\\']
  | '\n' => ['\\', 'n']
  | '\r' => ['\\', 'r']
  | '\t' => ['\\', 't']
  | c =>
    if c.toNat = 8 then ['\\', 'b']
    else if c.toNat = 12 then ['\\', 'f']
    else if c.toNat < 32 then
      ['\\', 'u', '0', '0', hexDigit (c.toNat / 16), hexDigit (c.toNat % 16)]
    else [c]

def quote (s : String) : List Char := '"' :: s.toList.flatMap escapeChar ++ ['"']

mutual

/-- Numbers that are not finite have no literal and are written as `null`. -/
def chars : Json → List Char
  | .null => "null".toList
  | .bool value => (if value then "true" else "false").toList
  | .int value => (toString value).toList
  | .real value => (if value.isFinite then value.literal else "null").toList
  | .str value => quote value
  | .arr [] => ['[', ']']
  | .arr (item :: items) => '[' :: item.chars ++ itemChars items ++ [']']
  | .obj [] => ['\x7b', '\x7d']
  | .obj ((name, value) :: members) =>
    '\x7b' :: quote name ++ ':' :: value.chars ++ memberChars members ++ ['\x7d']
  | .unreadable => "null".toList

def itemChars : List Json → List Char
  | [] => []
  | item :: items => ',' :: item.chars ++ itemChars items

def memberChars : List (String × Json) → List Char
  | [] => []
  | (name, value) :: members => ',' :: quote name ++ ':' :: value.chars ++ memberChars members

end

def text (value : Json) : String := String.ofList value.chars

mutual

/-- Whether every part of a value can be read. -/
def isReadable : Json → Bool
  | .arr items => itemsReadable items
  | .obj members => membersReadable members
  | .unreadable => false
  | _ => true

def itemsReadable : List Json → Bool
  | [] => true
  | item :: items => item.isReadable && itemsReadable items

def membersReadable : List (String × Json) → Bool
  | [] => true
  | (_, value) :: members => value.isReadable && membersReadable members

end

end Json

end CubeQuery
