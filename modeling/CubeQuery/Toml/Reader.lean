import CubeQuery.Toml.Document
import CubeQuery.Toml.Quoted
import CubeQuery.Toml.Scalar

/-!
Reading TOML documents. Readers that call each other are bounded by a number of steps; every second
step takes a character away, so twice the length of the text is enough. Neither dotted names nor
arrays and tables in one another may go deeper than a limit.
-/

namespace CubeQuery.Toml

open CubeQuery.Text

/-! ### Gaps -/

mutual

/-- Skips white space, line ends and comments. -/
def skipGap : List Char → List Char
  | [] => []
  | c :: rest =>
    if isBlank c || c = '\n' || (c = '\r' && rest.head? = some '\n') then skipGap rest
    else if c = '#' then skipComment rest
    else c :: rest

/-- Skips to the end of the line, or to a control character. -/
def skipComment : List Char → List Char
  | [] => []
  | c :: rest =>
    if c = '\n' || (c = '\r' && rest.head? = some '\n') then skipGap rest
    else if isControl c then c :: rest
    else skipComment rest

end

def skipBlanks (s : List Char) : List Char := s.dropWhile isBlank

/-- What follows the end of a line, on which only a comment may be left. -/
def afterLine? (s : List Char) : Option (List Char) :=
  match skipBlanks s with
  | [] => some []
  | '\n' :: rest => some rest
  | '\r' :: '\n' :: rest => some rest
  | '#' :: rest => some (skipComment rest)
  | _ => none

/-! ### Keys -/

def isBareKey (c : Char) : Bool := c.isAlphanum || c = '-' || c = '_'

def readKey : List Char → Option (List Char × List Char)
  | '"' :: rest => readBasic rest
  | '\'' :: rest => readLiteral rest
  | s =>
    let key := s.takeWhile isBareKey
    if key.isEmpty then none else some (key, s.dropWhile isBareKey)

/-- How many parts a name may have, and how many arrays and tables may stand in one another. -/
def depthLimit : Nat := 80

/-- Reads a name that has at most the given number of parts. -/
def readPathWithin : Nat → List Char → Option (List String × List Char)
  | 0, _ => none
  | parts + 1, s => do
    let (key, rest) ← readKey (skipBlanks s)
    match skipBlanks rest with
    | '.' :: rest =>
      let (path, rest) ← readPathWithin parts rest
      return (String.ofList key :: path, rest)
    | rest => return ([String.ofList key], rest)

def readPath : List Char → Option (List String × List Char) := readPathWithin depthLimit

/-! ### Values -/

def isWordChar (c : Char) : Bool := c.isAlphanum || c = '+' || c = '-' || c = '_' || c = '.' || c = ':'

/-- A word. A blank parts a date from its time and not from anything else. -/
def splitWord (s : List Char) : List Char × List Char :=
  let word := s.takeWhile isWordChar
  match s.dropWhile isWordChar with
  | ' ' :: c :: rest =>
    if isDate word && isAsciiDigit c then
      (word ++ ' ' :: (c :: rest).takeWhile isWordChar, (c :: rest).dropWhile isWordChar)
    else (word, ' ' :: c :: rest)
  | rest => (word, rest)

def stringValue (parts : List Char × List Char) : Toml × List Char :=
  (.string (String.ofList parts.1), parts.2)

mutual

/-- Reads a value in which at most `room` arrays and tables stand in one another. -/
def readValue : Nat → Nat → List Char → Option (Toml × List Char)
  | 0, _, _ => none
  | steps + 1, room, s =>
    match s with
    | '"' :: '"' :: '"' :: rest => (readBasicLines rest).map stringValue
    | '\'' :: '\'' :: '\'' :: rest => (readLiteralLines rest).map stringValue
    | '"' :: rest => (readBasic rest).map stringValue
    | '\'' :: rest => (readLiteral rest).map stringValue
    | '[' :: rest => do
      if room = 0 then none
      let (items, rest) ← readItems steps (room - 1) rest
      return (.array items, rest)
    | '\x7b' :: rest => do
      if room = 0 then none
      let (entries, rest) ← readEntries steps (room - 1) rest
      return (← ofEntries? entries, rest)
    | s =>
      let (word, rest) := splitWord s
      (scalar? word).map fun value => (value, rest)

/-- The items of an array up to its closing bracket. -/
def readItems : Nat → Nat → List Char → Option (List Toml × List Char)
  | 0, _, _ => none
  | steps + 1, room, s =>
    match skipGap s with
    | ']' :: rest => some ([], rest)
    | s => do
      let (item, rest) ← readValue steps room s
      match skipGap rest with
      | ',' :: rest =>
        let (items, rest) ← readItems steps room rest
        return (item :: items, rest)
      | ']' :: rest => return ([item], rest)
      | _ => none

/-- The entries of a table up to its closing brace. -/
def readEntries : Nat → Nat → List Char → Option (List (List String × Toml) × List Char)
  | 0, _, _ => none
  | steps + 1, room, s =>
    match skipGap s with
    | '\x7d' :: rest => some ([], rest)
    | s => do
      let (path, value, rest) ← readEntry skipGap steps room s
      match skipGap rest with
      | ',' :: rest =>
        let (entries, rest) ← readEntries steps room rest
        return ((path, value) :: entries, rest)
      | '\x7d' :: rest => return ([(path, value)], rest)
      | _ => none

/-- A name and its value, with something to skip on both sides of the sign between them. -/
def readEntry (skip : List Char → List Char) :
    Nat → Nat → List Char → Option (List String × Toml × List Char)
  | 0, _, _ => none
  | steps + 1, room, s => do
    let (path, rest) ← readPath s
    match skip rest with
    | '=' :: rest =>
      let (value, rest) ← readValue steps room (skip rest)
      return (path, value, rest)
    | _ => none

end

/-! ### Documents -/

def readLine (steps : Nat) : List Char → Option (Line × List Char)
  | '[' :: '[' :: rest => do
    match ← readPath rest with
    | (path, ']' :: ']' :: rest) => return (.element path, rest)
    | _ => none
  | '[' :: rest => do
    match ← readPath rest with
    | (path, ']' :: rest) => return (.table path, rest)
    | _ => none
  | s => do
    let (path, value, rest) ← readEntry skipBlanks steps depthLimit s
    return (.entry path value, rest)

def readLines : Nat → Document → List Char → Option Document
  | 0, _, _ => none
  | steps + 1, document, s =>
    match skipGap s with
    | [] => some document
    | s => do
      let (line, rest) ← readLine steps s
      readLines steps (← document.add line) (← afterLine? rest)

/-- A mark of the byte order may stand before the text. -/
def withoutMark : List Char → List Char
  | '\ufeff' :: rest => rest
  | s => s

def read? (text : String) : Option Toml :=
  let s := withoutMark text.toList
  (readLines (2 * s.length + 4) .empty s).map Document.toToml

end CubeQuery.Toml
