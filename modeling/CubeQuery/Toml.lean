import CubeQuery.Double

/-!
Values of TOML documents. A table has no name twice.
-/

namespace CubeQuery

inductive Toml where
  | string (s : String)
  | integer (n : Int)
  | float (x : Double)
  | bool (b : Bool)
  /-- A date, a time or both, as it is written. -/
  | moment (text : String)
  /-- A number that is too large. It spoils every reader that meets it, but not one that leaves it
  alone. -/
  | overflow
  | array (items : List Toml)
  | table (members : List (String × Toml))

namespace Toml

mutual

def isReadable : Toml → Bool
  | .overflow => false
  | .array items => itemsReadable items
  | .table members => membersReadable members
  | _ => true

def itemsReadable : List Toml → Bool
  | [] => true
  | item :: items => item.isReadable && itemsReadable items

def membersReadable : List (String × Toml) → Bool
  | [] => true
  | (_, value) :: members => value.isReadable && membersReadable members

end

/-- Whether a value can be read as a record: a table of its members by name, which are all read, or
an array of them in order, of which the rest is left alone. A moment is a record without members. -/
def isRecord : Toml → Bool
  | .table members => membersReadable members
  | .array _ | .moment _ => true
  | _ => false

/-- A member of a record that has the given place when members go by order. -/
def member? (toml : Toml) (place : Nat) (name : String) : Option Toml :=
  match toml with
  | .table members => members.lookup name
  | .array items => items[place]?
  | _ => none

/-- Reads a member that may be left out. -/
def withDefault {α : Type} (toml : Toml) (place : Nat) (name : String) (default : α)
    (read : Toml → Option α) : Option α :=
  match toml.member? place name with
  | some value => read value
  | none => some default

def readString : Toml → Option String
  | .string s => some s
  | _ => none

def readBool : Toml → Option Bool
  | .bool b => some b
  | _ => none

/-- A natural number that fits a word. -/
def readCount : Toml → Option Nat
  | .integer n => if 0 ≤ n ∧ n < (Nat.pow 2 64 : Int) then some n.toNat else none
  | _ => none

end Toml

end CubeQuery
