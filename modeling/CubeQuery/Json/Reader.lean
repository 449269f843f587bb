import CubeQuery.Json.Token

/-!
Reading a JSON value from its tokens, with a stack of the arrays and objects that are open. What
stands deeper than `depthLimit` is unreadable.
-/

namespace CubeQuery.Json

def depthLimit : Nat := 127

/-- An array or object that is open; its parts are in reverse. -/
inductive Frame where
  | array (items : List Json)
  | object (members : List (String × Json))
  /-- A member whose name has been read and whose value has not. -/
  | member (members : List (String × Json)) (name : String)

/-- An open frame, and whether it will have a value. -/
structure Level where
  frame : Frame
  readable : Bool

/-- What may come next. -/
inductive Expected where
  | value
  | valueOrClose
  | separatorOrClose
  | name
  | nameOrClose
  | colon
  | nothing
deriving DecidableEq

structure Reader where
  levels : List Level
  expected : Expected
  /-- The value of the whole text, once it is complete. -/
  result : Json

/-- Puts a complete value where it belongs. -/
def Reader.put (reader : Reader) (value : Json) : Reader :=
  match reader.levels with
  | [] => ⟨[], .nothing, value⟩
  | ⟨.array items, readable⟩ :: outer =>
    ⟨⟨.array (value :: items), readable⟩ :: outer, .separatorOrClose, .null⟩
  | ⟨.member members name, readable⟩ :: outer =>
    ⟨⟨.object ((name, value) :: members), readable⟩ :: outer, .separatorOrClose, .null⟩
  | ⟨.object members, readable⟩ :: outer =>
    ⟨⟨.object members, readable⟩ :: outer, .separatorOrClose, .null⟩

def Reader.acceptsValue (reader : Reader) : Bool :=
  reader.expected = .value || reader.expected = .valueOrClose

def Reader.openLevel (reader : Reader) (frame : Frame) (expected : Expected) : Reader :=
  ⟨⟨frame, decide (reader.levels.length < depthLimit)⟩ :: reader.levels, expected, .null⟩

def Reader.step (reader : Reader) (token : Token) : Option Reader :=
  match token with
  | .scalar value => if reader.acceptsValue then some (reader.put value) else none
  | .quoted text =>
    if reader.acceptsValue then some (reader.put (text.elim .unreadable .str))
    else if reader.expected = .name ∨ reader.expected = .nameOrClose then
      match reader.levels with
      | ⟨.object members, readable⟩ :: outer =>
        some ⟨⟨.member members (text.getD ""), readable && text.isSome⟩ :: outer, .colon, .null⟩
      | _ => none
    else none
  | .openArray => if reader.acceptsValue then some (reader.openLevel (.array []) .valueOrClose) else none
  | .openObject => if reader.acceptsValue then some (reader.openLevel (.object []) .nameOrClose) else none
  | .closeArray =>
    match reader.levels with
    | ⟨.array items, readable⟩ :: outer =>
      if reader.expected = .valueOrClose ∨ reader.expected = .separatorOrClose then
        some (Reader.put ⟨outer, .value, .null⟩ (if readable then .arr items.reverse else .unreadable))
      else none
    | _ => none
  | .closeObject =>
    match reader.levels with
    | ⟨.object members, readable⟩ :: outer =>
      if reader.expected = .nameOrClose ∨ reader.expected = .separatorOrClose then
        some (Reader.put ⟨outer, .value, .null⟩ (if readable then .obj members.reverse else .unreadable))
      else none
    | _ => none
  | .colon => if reader.expected = .colon then some { reader with expected := .value } else none
  | .comma =>
    if reader.expected = .separatorOrClose then
      match reader.levels with
      | ⟨.array _, _⟩ :: _ => some { reader with expected := .value }
      | _ => some { reader with expected := .name }
    else none

def Reader.run (reader : Reader) : List Token → Option Reader
  | [] => some reader
  | token :: rest =>
    match reader.step token with
    | some next => next.run rest
    | none => none

/-- The value of a text, if the text is one JSON value and nothing else. -/
def read? (s : String) : Option Json := do
  let tokens ← tokens? s.toList
  let reader ← Reader.run ⟨[], .value, .null⟩ tokens
  if reader.expected = .nothing then some reader.result else none

end CubeQuery.Json
