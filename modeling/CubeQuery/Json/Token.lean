import CubeQuery.Json.Number
import CubeQuery.Text.HexDigit

/-!
Tokens of JSON text. The scanner looks at one character at a time, so scanning a text in two parts
is the same as scanning it whole.
-/

namespace CubeQuery.Json

inductive Token where
  | openArray
  | closeArray
  | openObject
  | closeObject
  | colon
  | comma
  /-- A number, a truth value or `null`. -/
  | scalar (value : Json)
  /-- A string; none if it holds half of a surrogate pair. -/
  | quoted (value : Option String)

/-- A part of a string: a character, or a code unit that was written by its number. -/
inductive Piece where
  | char (c : Char)
  | unit (code : Nat)

def isHighSurrogate (code : Nat) : Bool := 0xD800 ≤ code && code < 0xDC00

def isLowSurrogate (code : Nat) : Bool := 0xDC00 ≤ code && code < 0xE000

/-- Joins pairs of surrogates; a surrogate without its partner has no character. -/
def joinPieces : List Piece → Option (List Char)
  | [] => some []
  | .char c :: rest => (joinPieces rest).map (c :: ·)
  | .unit code :: rest =>
    if isHighSurrogate code then
      match rest with
      | .unit low :: rest =>
        if isLowSurrogate low then
          (joinPieces rest).map
            (Char.ofNat (0x10000 + (code - 0xD800) * 0x400 + (low - 0xDC00)) :: ·)
        else none
      | _ => none
    else if isLowSurrogate code then none
    else (joinPieces rest).map (Char.ofNat code :: ·)

/-- Where the scanner stands; what it has gathered is in reverse. -/
inductive Place where
  | gap
  | word (chars : List Char)
  | string (pieces : List Piece)
  | escape (pieces : List Piece)
  | codeUnit (pieces : List Piece) (digits : List Nat)

structure Scanner where
  place : Place
  tokens : List Token

def isGap (c : Char) : Bool := c = ' ' || c = '\n' || c = '\t' || c = '\r'

def punctuation? (c : Char) : Option Token :=
  match c with
  | '[' => some .openArray
  | ']' => some .closeArray
  | '\x7b' => some .openObject
  | '\x7d' => some .closeObject
  | ':' => some .colon
  | ',' => some .comma
  | _ => none

def wordToken? (word : List Char) : Option Token :=
  if word = "null".toList then some (.scalar .null)
  else if word = "true".toList then some (.scalar (.bool true))
  else if word = "false".toList then some (.scalar (.bool false))
  else (Literal.parse? word).map fun literal => .scalar literal.value

def escaped? (c : Char) : Option Char :=
  match c with
  | '"' => some '"'
  | '\\' => some '\\'
  | '/' => some '/'
  | 'b' => some (Char.ofNat 8)
  | 'f' => some (Char.ofNat 12)
  | 'n' => some '\n'
  | 'r' => some '\r'
  | 't' => some '\t'
  | _ => none

/-- One character outside of strings and words. -/
def Scanner.start (tokens : List Token) (c : Char) : Scanner :=
  if isGap c then ⟨.gap, tokens⟩
  else if c = '"' then ⟨.string [], tokens⟩
  else match punctuation? c with
    | some token => ⟨.gap, token :: tokens⟩
    | none => ⟨.word [c], tokens⟩

def endsWord (c : Char) : Bool := isGap c || c = '"' || (punctuation? c).isSome

def Scanner.step (scanner : Scanner) (c : Char) : Option Scanner :=
  match scanner.place with
  | .gap => some (.start scanner.tokens c)
  | .word chars =>
    if endsWord c then
      (wordToken? chars.reverse).map fun token => .start (token :: scanner.tokens) c
    else some ⟨.word (c :: chars), scanner.tokens⟩
  | .string pieces =>
    if c = '"' then
      some ⟨.gap, .quoted ((joinPieces pieces.reverse).map String.ofList) :: scanner.tokens⟩
    else if c = '\\' then some ⟨.escape pieces, scanner.tokens⟩
    else if c.toNat < 32 then none
    else some ⟨.string (.char c :: pieces), scanner.tokens⟩
  | .escape pieces =>
    if c = 'u' then some ⟨.codeUnit pieces [], scanner.tokens⟩
    else (escaped? c).map fun c => ⟨.string (.char c :: pieces), scanner.tokens⟩
  | .codeUnit pieces digits =>
    (Text.hexValue? c).map fun digit =>
      match digits with
      | [low, middle, high] =>
        ⟨.string (.unit (((high * 16 + middle) * 16 + low) * 16 + digit) :: pieces), scanner.tokens⟩
      | digits => ⟨.codeUnit pieces (digit :: digits), scanner.tokens⟩

def Scanner.run (scanner : Scanner) : List Char → Option Scanner
  | [] => some scanner
  | c :: rest =>
    match scanner.step c with
    | some next => next.run rest
    | none => none

/-- The tokens of a text that does not end inside a string. -/
def Scanner.finish? (scanner : Scanner) : Option (List Token) :=
  match scanner.place with
  | .gap => some scanner.tokens.reverse
  | .word chars => (wordToken? chars.reverse).map fun token => (token :: scanner.tokens).reverse
  | _ => none

def tokens? (s : List Char) : Option (List Token) :=
  (Scanner.run ⟨.gap, []⟩ s).bind Scanner.finish?

end CubeQuery.Json
