import CubeQuery.Json

/-!
Records of the wire format. A record is an object whose unknown members are skipped and whose known
members are given once, or a list of its values in the order of declaration. A tagged record names
its kind in the member `@class`, or first in the list.

A tagged record is read as a whole before its kind is known, and what stands in it is read from
there. That second reading knows two more spellings: a kind may be given by its number, and the
nothing that goes with a constant may be an empty object.
-/

namespace CubeQuery

mutual

/-- How deep arrays and objects are nested. -/
def Json.height : Json → Nat
  | .arr items => Json.itemsHeight items + 1
  | .obj members => Json.membersHeight members + 1
  | _ => 0

def Json.itemsHeight : List Json → Nat
  | [] => 0
  | item :: items => max item.height (Json.itemsHeight items)

def Json.membersHeight : List (String × Json) → Nat
  | [] => 0
  | (_, value) :: members => max value.height (Json.membersHeight members)

end

namespace Wire

/-- The members of a record that are present. -/
structure Record where
  /-- Whether the record was written as an object. -/
  named : Bool
  members : List (String × Json)

def distinct : List String → Bool
  | [] => true
  | name :: names => !names.contains name && distinct names

def Record.ofJson? (names : List String) : Json → Option Record
  | .obj members =>
    let known := members.filter fun (name, _) => names.contains name
    if distinct (known.map (·.1)) then some ⟨true, known⟩ else none
  | .arr values => if values.length ≤ names.length then some ⟨false, names.zip values⟩ else none
  | _ => none

def Record.get? (record : Record) (name : String) : Option Json := record.members.lookup name

variable {α β : Type}

def Record.required (record : Record) (name : String) (read : Json → Option α) : Option α :=
  (record.get? name).bind read

def Record.withDefault (record : Record) (name : String) (default : α) (read : Json → Option α) :
    Option α :=
  match record.get? name with
  | some json => read json
  | none => some default

/-- A value that may be `null`. -/
def nullable (read : Json → Option α) : Json → Option (Option α)
  | .null => some none
  | json => (read json).map some

def Record.optional (record : Record) (name : String) (read : Json → Option α) : Option (Option α) :=
  record.withDefault name none (nullable read)

/-- Where a value stands: in the text itself or in a tagged record. -/
inductive Place
  | text
  | tagged
deriving DecidableEq

def tagName : String := "@class"

/-- The kind that a tag stands for. In a tagged record a number counts the kinds from zero. -/
def namedKind? (place : Place) (kinds : List String) : Json → Option String
  | .str kind => if kinds.contains kind then some kind else none
  | .int n => if place = .tagged ∧ 0 ≤ n then kinds[n.toNat]? else none
  | _ => none

/-- The kind of a record and the record without its tag. A tagged record is read as a whole, so no
part of it may be unreadable, known or not. -/
def untag? (place : Place) (kinds : List String) : Json → Option (String × Json)
  | .obj members =>
    let rest := members.filter fun (name, _) => name != tagName
    match members.filter fun (name, _) => name == tagName with
    | [(_, tag)] =>
      if Json.membersReadable rest then (namedKind? place kinds tag).map (·, .obj rest) else none
    | _ => none
  | .arr (tag :: rest) =>
    if Json.itemsReadable rest then (namedKind? place kinds tag).map (·, .arr rest) else none
  | _ => none

def readString : Json → Option String
  | .str s => some s
  | _ => none

def readList (read : Json → Option α) : Json → Option (List α)
  | .arr items => items.mapM read
  | _ => none

def readPair (readFirst : Json → Option α) (readSecond : Json → Option β) : Json → Option (α × β)
  | .arr [first, second] => do return (← readFirst first, ← readSecond second)
  | _ => none

/-- A constant is written as its name, or as an object with the name and nothing. -/
def readConstant (all : List α) (name : α → String) (place : Place) : Json → Option α
  | .str s => all.find? fun constant => name constant == s
  | .obj [(s, .null)] => all.find? fun constant => name constant == s
  | .obj [(s, .obj [])] => if place = .tagged then all.find? fun constant => name constant == s else none
  | _ => none

/-- A natural number that fits a word. -/
def readCount : Json → Option Nat
  | .int n => if 0 ≤ n ∧ n < (Nat.pow 2 64 : Int) then some n.toNat else none
  | _ => none

def tagged (tag : String) (members : List (String × Json)) : Json :=
  .obj ((tagName, .str tag) :: members)

def strings (names : List String) : Json := .arr (names.map .str)

/-- A member that is left out when there is nothing to write. -/
def optionalMember (name : String) : Option Json → List (String × Json)
  | none => []
  | some value => [(name, value)]

def listMember (name : String) : List Json → List (String × Json)
  | [] => []
  | values => [(name, .arr values)]

end Wire

end CubeQuery
