import CubeQuery.Text.HexDigit

/-!
Strings of TOML. A string stands between quotes, where a backslash escapes, or between apostrophes,
where it does not. Three marks at each end let it run over several lines. Each reader is given what
follows the opening marks, and gives the characters of the string and what follows the closing marks.
-/

namespace CubeQuery.Toml

open CubeQuery.Text

def isBlank (c : Char) : Bool := c = ' ' || c = '\t'

/-- A character that may stand nowhere, not even in a comment. -/
def isControl (c : Char) : Bool := (c.toNat < 32 && c != '\t') || c.toNat = 127

/-- Text without control characters other than the ends of its lines. -/
def isLines : List Char → Bool
  | [] => true
  | '\n' :: rest => isLines rest
  | '\r' :: '\n' :: rest => isLines rest
  | c :: rest => !isControl c && isLines rest

def isLine (s : List Char) : Bool := s.all (!isControl ·)

/-! ### Escapes -/

def charOf? (digits : List Char) : Option Char :=
  let code := valueInBase 16 digits
  if digits.all (isDigitOf 16) && decide code.isValidChar then some (Char.ofNat code) else none

def escaped? (c : Char) : Option Char :=
  match c with
  | '"' => some '"'
  | '\\' => some '\\'
  | 'b' => some (Char.ofNat 8)
  | 'e' => some (Char.ofNat 27)
  | 'f' => some (Char.ofNat 12)
  | 'n' => some '\n'
  | 'r' => some '\r'
  | 't' => some '\t'
  | _ => none

def isSpace (c : Char) : Bool := isBlank c || c = '\n' || c = '\r'

/-- Whether nothing but blanks stands on the rest of the line, and the line ends. -/
def endsLine (s : List Char) : Bool :=
  match s.dropWhile isBlank with
  | '\n' :: _ | '\r' :: '\n' :: _ => true
  | _ => false

/-- Resolves escapes. A backslash at the end of a line takes away all white space after it; the flag
says whether that is going on. -/
def unescape? (joining : Bool) : List Char → Option (List Char)
  | [] => some []
  | '\\' :: 'x' :: a :: b :: rest => do return (← charOf? [a, b]) :: (← unescape? false rest)
  | '\\' :: 'u' :: a :: b :: c :: d :: rest => do
    return (← charOf? [a, b, c, d]) :: (← unescape? false rest)
  | '\\' :: 'U' :: a :: b :: c :: d :: e :: f :: g :: h :: rest => do
    return (← charOf? [a, b, c, d, e, f, g, h]) :: (← unescape? false rest)
  | '\\' :: c :: rest =>
    if endsLine (c :: rest) then unescape? true rest
    else do return (← escaped? c) :: (← unescape? false rest)
  | c :: rest =>
    if joining && isSpace c then unescape? true rest
    else (unescape? false rest).map (c :: ·)

/-! ### Readers -/

/-- Puts a character before the first of a pair. -/
def before (c : Char) (parts : List Char × List Char) : List Char × List Char := (c :: parts.1, parts.2)

/-- Splits a text at the first mark. A backslash keeps the character after it if it escapes. -/
def splitAtQuote (mark : Char) (escapes : Bool) : List Char → Option (List Char × List Char)
  | [] => none
  | [c] => if c = mark then some ([], []) else none
  | c :: next :: rest =>
    if c = mark then some ([], next :: rest)
    else if escapes && c = '\\' then
      (splitAtQuote mark escapes rest).map fun parts => before c (before next parts)
    else (splitAtQuote mark escapes (next :: rest)).map (before c)

/-- Splits a text at the first three marks in a row. Up to two more marks belong to the string. -/
def splitAtTripleQuote (mark : Char) (escapes : Bool) : List Char → Option (List Char × List Char)
  | a :: b :: c :: rest =>
    if a = mark ∧ b = mark ∧ c = mark then
      let more := (rest.take 2).takeWhile (· = mark)
      some (more, rest.drop more.length)
    else if escapes && a = '\\' then
      (splitAtTripleQuote mark escapes (c :: rest)).map fun parts => before a (before b parts)
    else (splitAtTripleQuote mark escapes (b :: c :: rest)).map (before a)
  | _ => none

/-- A line end right after the opening marks does not count. -/
def withoutFirstLineEnd : List Char → List Char
  | '\n' :: rest => rest
  | '\r' :: '\n' :: rest => rest
  | s => s

def readBasic (s : List Char) : Option (List Char × List Char) := do
  let (raw, rest) ← splitAtQuote '"' true s
  if isLine raw then return (← unescape? false raw, rest) else none

def readLiteral (s : List Char) : Option (List Char × List Char) := do
  let (raw, rest) ← splitAtQuote '\'' false s
  if isLine raw then return (raw, rest) else none

def readBasicLines (s : List Char) : Option (List Char × List Char) := do
  let (raw, rest) ← splitAtTripleQuote '"' true (withoutFirstLineEnd s)
  if isLines raw then return (← unescape? false raw, rest) else none

def readLiteralLines (s : List Char) : Option (List Char × List Char) := do
  let (raw, rest) ← splitAtTripleQuote '\'' false (withoutFirstLineEnd s)
  if isLines raw then return (raw, rest) else none

end CubeQuery.Toml
