import CubeQuery.Settings.Error
import CubeQuery.Text.Alphanumeric

/-!
Expansion of variables in a text. A text is cut into pieces once; the values of variables are put in
their places and are not looked into.
-/

namespace CubeQuery.Expansion

open CubeQuery.Text

inductive Piece where
  | char (c : Char)
  | reference (name : List Char)
deriving DecidableEq

def isNameChar (c : Char) : Bool := isAlphanumeric c || c = '_'

def isInBraces (c : Char) : Bool := c != '\x7d'

/-- A variable is a dollar with a name in braces, where the end of the text closes the braces too,
or a dollar with as long a name as possible. A dollar without a name stands for itself. -/
def pieces : List Char → List Piece
  | [] => []
  | '$' :: '\x7b' :: rest =>
    .reference (rest.takeWhile isInBraces) :: pieces ((rest.dropWhile isInBraces).drop 1)
  | '$' :: rest =>
    if rest.takeWhile isNameChar = [] then .char '$' :: pieces rest
    else .reference (rest.takeWhile isNameChar) :: pieces (rest.dropWhile isNameChar)
  | c :: rest => .char c :: pieces rest
termination_by s => s.length
decreasing_by
  all_goals simp only [List.length_cons, List.length_drop]
  · have := (List.dropWhile_sublist (l := rest) isInBraces).length_le
    omega
  · omega
  · have := (List.dropWhile_sublist (l := rest) isNameChar).length_le
    omega
  · omega

def Piece.value (valueOf : String → Option String) : Piece → Except SettingsError (List Char)
  | .char c => .ok [c]
  | .reference name =>
    match valueOf (String.ofList name) with
    | some value => .ok value.toList
    | none => .error (.missingVariable (String.ofList name))

def Piece.name? : Piece → Option String
  | .char _ => none
  | .reference name => some (String.ofList name)

/-- The variables that a text asks for. -/
def names (text : String) : List String := (pieces text.toList).filterMap Piece.name?

/-- A text with its variables replaced. The error names the first that is missing. -/
def expand (valueOf : String → Option String) (text : String) : Except SettingsError String := do
  let values ← (pieces text.toList).mapM (Piece.value valueOf)
  return String.ofList values.flatten

end CubeQuery.Expansion
