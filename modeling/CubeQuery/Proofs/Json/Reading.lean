import CubeQuery.Proofs.Json.Scanning
import CubeQuery.Wire.Record

/-! A value is read back from its text if it is not nested too deep, its integers fit a word and its floats
are read back from their literals. The text is scanned into the tokens of the value, and these lead the
reader to put the value in its place. -/

namespace CubeQuery.Json

mutual

/-- The floats of a value, from left to right. -/
def floats : Json → List Double
  | .real x => [x]
  | .arr items => itemFloats items
  | .obj members => memberFloats members
  | _ => []

def itemFloats : List Json → List Double
  | [] => []
  | item :: items => item.floats ++ itemFloats items

def memberFloats : List (String × Json) → List Double
  | [] => []
  | (_, value) :: members => value.floats ++ memberFloats members

end

mutual

/-- Whether every part has a text of its own: all but the unreadable and the integers that fit no word. -/
def isWritten : Json → Bool
  | .int n => -(Nat.pow 2 63 : Int) ≤ n && n ≤ largestWord
  | .arr items => itemsWritten items
  | .obj members => membersWritten members
  | .unreadable => false
  | _ => true

def itemsWritten : List Json → Bool
  | [] => true
  | item :: items => item.isWritten && itemsWritten items

def membersWritten : List (String × Json) → Bool
  | [] => true
  | (_, value) :: members => value.isWritten && membersWritten members

end

mutual

theorem isReadable_of_isWritten (json : Json) (written : json.isWritten = true) : json.isReadable = true := by
  cases json with
  | arr items => exact itemsReadable_of_itemsWritten items written
  | obj members => exact membersReadable_of_membersWritten members written
  | unreadable => cases written
  | _ => rfl

theorem itemsReadable_of_itemsWritten (items : List Json) (written : itemsWritten items = true) :
    itemsReadable items = true := by
  cases items with
  | nil => rfl
  | cons item items =>
    obtain ⟨first, rest⟩ := Bool.and_eq_true_iff.mp written
    exact Bool.and_eq_true_iff.mpr
      ⟨isReadable_of_isWritten item first, itemsReadable_of_itemsWritten items rest⟩

theorem membersReadable_of_membersWritten (members : List (String × Json))
    (written : membersWritten members = true) : membersReadable members = true := by
  cases members with
  | nil => rfl
  | cons member members =>
    obtain ⟨name, value⟩ := member
    obtain ⟨first, rest⟩ := Bool.and_eq_true_iff.mp written
    exact Bool.and_eq_true_iff.mpr
      ⟨isReadable_of_isWritten value first, membersReadable_of_membersWritten members rest⟩

end

/-! ### The tokens of a value -/

mutual

def tokens : Json → List Token
  | .str value => [.quoted (some value)]
  | .arr [] => [.openArray, .closeArray]
  | .arr (item :: items) => .openArray :: item.tokens ++ itemTokens items ++ [.closeArray]
  | .obj [] => [.openObject, .closeObject]
  | .obj ((name, value) :: members) =>
    .openObject :: .quoted (some name) :: .colon :: value.tokens ++ memberTokens members ++ [.closeObject]
  | value => [.scalar value]

def itemTokens : List Json → List Token
  | [] => []
  | item :: items => .comma :: item.tokens ++ itemTokens items

def memberTokens : List (String × Json) → List Token
  | [] => []
  | (name, value) :: members =>
    .comma :: .quoted (some name) :: .colon :: value.tokens ++ memberTokens members

end

theorem scans_name (name : String) {value : List Char} {tokens : List Token} (scans : Scans value tokens) :
    Scans (quote name ++ ':' :: value) (.quoted (some name) :: .colon :: tokens) :=
  (scans_quote name).punctuation rfl scans

theorem scans_enclosed {opening closing : Char} {first last : Token} {inner : List Char}
    {tokens : List Token} (opens : punctuation? opening = some first)
    (closes : punctuation? closing = some last) (scans : Scans inner tokens) :
    Scans (opening :: inner ++ [closing]) (first :: tokens ++ [last]) :=
  (scans_nil.punctuation opens scans).punctuation closes scans_nil

/-- A finite float that is read back from its literal. -/
def ReadsBack (x : Double) : Prop := x.isFinite = true ∧ read? x.literal = some (.real x)

def asReal? : Json → Option Double
  | .real x => some x
  | _ => none

theorem bind_asReal?_eq_some {json : Option Json} {x : Double} :
    json.bind asReal? = some x ↔ json = some (.real x) := by
  constructor
  · intro found
    obtain ⟨value, rfl, real⟩ := Option.bind_eq_some_iff.mp found
    cases value <;> cases real
    rfl
  · rintro rfl
    rfl

instance (x : Double) : Decidable (read? x.literal = some (.real x)) :=
  decidable_of_iff _ bind_asReal?_eq_some

theorem scans_real {x : Double} (back : ReadsBack x) :
    Scans (Json.real x).chars (Json.real x).tokens := by
  unfold chars tokens
  rw [if_pos back.1]
  exact scans_of_read? (staysInWord_literal x) back.2

mutual

theorem scans_chars (json : Json) (written : json.isWritten = true)
    (back : ∀ x ∈ json.floats, ReadsBack x) : Scans json.chars json.tokens := by
  cases json with
  | null => exact scans_word rfl rfl
  | bool value => cases value <;> exact scans_word rfl rfl
  | int n =>
    obtain ⟨low, high⟩ := Bool.and_eq_true_iff.mp written
    exact scans_int (of_decide_eq_true low) (of_decide_eq_true high)
  | real x => exact scans_real (back x (List.mem_singleton_self x))
  | str s => exact scans_quote s
  | unreadable => cases written
  | arr items =>
    cases items with
    | nil => exact scans_enclosed rfl rfl scans_nil
    | cons item items =>
      obtain ⟨first, rest⟩ := Bool.and_eq_true_iff.mp written
      obtain ⟨backFirst, backRest⟩ := List.forall_mem_append.mp back
      exact scans_enclosed rfl rfl (scans_items items rest backRest (scans_chars item first backFirst))
  | obj members =>
    cases members with
    | nil => exact scans_enclosed rfl rfl scans_nil
    | cons member members =>
      obtain ⟨name, value⟩ := member
      obtain ⟨first, rest⟩ := Bool.and_eq_true_iff.mp written
      obtain ⟨backFirst, backRest⟩ := List.forall_mem_append.mp back
      have scans := scans_members members rest backRest (scans_name name (scans_chars value first backFirst))
      exact scans_enclosed rfl rfl scans

theorem scans_items (items : List Json) (written : itemsWritten items = true)
    (back : ∀ x ∈ itemFloats items, ReadsBack x) {front : List Char} {tokens : List Token}
    (scans : Scans front tokens) : Scans (front ++ itemChars items) (tokens ++ itemTokens items) := by
  cases items with
  | nil => simpa [itemChars, itemTokens] using scans
  | cons item items =>
    obtain ⟨first, rest⟩ := Bool.and_eq_true_iff.mp written
    obtain ⟨backFirst, backRest⟩ := List.forall_mem_append.mp back
    have next := scans.punctuation (c := ',') rfl (scans_chars item first backFirst)
    simpa [itemChars, itemTokens] using scans_items items rest backRest next

theorem scans_members (members : List (String × Json)) (written : membersWritten members = true)
    (back : ∀ x ∈ memberFloats members, ReadsBack x) {front : List Char} {tokens : List Token}
    (scans : Scans front tokens) : Scans (front ++ memberChars members) (tokens ++ memberTokens members) := by
  cases members with
  | nil => simpa [memberChars, memberTokens] using scans
  | cons member members =>
    obtain ⟨name, value⟩ := member
    obtain ⟨first, rest⟩ := Bool.and_eq_true_iff.mp written
    obtain ⟨backFirst, backRest⟩ := List.forall_mem_append.mp back
    have next := scans.punctuation (c := ',') rfl (scans_name name (scans_chars value first backFirst))
    simpa [memberChars, memberTokens] using scans_members members rest backRest next

end

/-! ### Reading the tokens -/

theorem Reader.run_append (reader : Reader) (front back : List Token) :
    reader.run (front ++ back) = (reader.run front).bind (·.run back) := by
  induction front generalizing reader with
  | nil => rfl
  | cons token rest ih =>
    rw [List.cons_append, Reader.run, Reader.run]
    cases reader.step token with
    | none => rfl
    | some next => exact ih next

theorem Reader.run_then {reader next : Reader} {last : Option Reader} {front back : List Token}
    (first : reader.run front = some next) (rest : next.run back = last) :
    reader.run (front ++ back) = last := by
  rw [Reader.run_append, first]
  exact rest

/-- A value is put by the open levels alone. -/
theorem Reader.put_levels (reader : Reader) (value : Json) :
    Reader.put ⟨reader.levels, .value, .null⟩ value = reader.put value := rfl

theorem Reader.run_open {reader : Reader} {token : Token} {frame : Frame} {expected : Expected}
    (room : reader.levels.length < depthLimit)
    (opens : reader.step token = some (reader.openLevel frame expected)) :
    reader.run [token] = some ⟨⟨frame, true⟩ :: reader.levels, expected, .null⟩ := by
  unfold Reader.run
  rw [opens]
  unfold Reader.openLevel
  rw [decide_eq_true room]
  rfl

mutual

theorem run_tokens (json : Json) (written : json.isWritten = true) (reader : Reader)
    (accepts : reader.acceptsValue = true) (depth : reader.levels.length + json.height ≤ depthLimit) :
    reader.run json.tokens = some (reader.put json) := by
  cases json with
  | null | bool | int | real | str => simp [tokens, Reader.run, Reader.step, accepts]
  | unreadable => cases written
  | arr items =>
    unfold height at depth
    have opened := Reader.run_open (by omega : reader.levels.length < depthLimit)
      (show reader.step .openArray = some (reader.openLevel (.array []) .valueOrClose) by
        simp [Reader.step, accepts])
    cases items with
    | nil => exact Reader.run_then opened rfl
    | cons item items =>
      obtain ⟨first, rest⟩ := Bool.and_eq_true_iff.mp written
      unfold itemsHeight at depth
      have value := run_tokens item first ⟨⟨.array [], true⟩ :: reader.levels, .valueOrClose, .null⟩ rfl
        (by simp only [List.length_cons]; omega)
      have others := run_itemTokens items rest [item] reader.levels (by omega)
      refine Reader.run_then (Reader.run_then (Reader.run_then opened value) others) ?_
      simp [Reader.run, Reader.step, Reader.put_levels]
  | obj members =>
    unfold height at depth
    have opened := Reader.run_open (by omega : reader.levels.length < depthLimit)
      (show reader.step .openObject = some (reader.openLevel (.object []) .nameOrClose) by
        simp [Reader.step, accepts])
    cases members with
    | nil => exact Reader.run_then opened rfl
    | cons member members =>
      obtain ⟨name, content⟩ := member
      obtain ⟨first, rest⟩ := Bool.and_eq_true_iff.mp written
      unfold membersHeight at depth
      have value := run_tokens content first ⟨⟨.member [] name, true⟩ :: reader.levels, .value, .null⟩ rfl
        (by simp only [List.length_cons]; omega)
      have others := run_memberTokens members rest [(name, content)] reader.levels (by omega)
      refine Reader.run_then (Reader.run_then (Reader.run_then opened ?_) others) ?_
      · exact value
      · simp [Reader.run, Reader.step, Reader.put_levels]

theorem run_itemTokens (items : List Json) (written : itemsWritten items = true) (read : List Json)
    (outer : List Level) (depth : outer.length + 1 + itemsHeight items ≤ depthLimit) :
    Reader.run ⟨⟨.array read, true⟩ :: outer, .separatorOrClose, .null⟩ (itemTokens items) =
      some ⟨⟨.array (items.reverse ++ read), true⟩ :: outer, .separatorOrClose, .null⟩ := by
  cases items with
  | nil => rfl
  | cons item items =>
    obtain ⟨first, rest⟩ := Bool.and_eq_true_iff.mp written
    unfold itemsHeight at depth
    have value := run_tokens item first ⟨⟨.array read, true⟩ :: outer, .value, .null⟩ rfl
      (by simp only [List.length_cons]; omega)
    have others := run_itemTokens items rest (item :: read) outer (by omega)
    rw [List.reverse_cons, List.append_assoc]
    exact Reader.run_then value others

theorem run_memberTokens (members : List (String × Json)) (written : membersWritten members = true)
    (read : List (String × Json)) (outer : List Level)
    (depth : outer.length + 1 + membersHeight members ≤ depthLimit) :
    Reader.run ⟨⟨.object read, true⟩ :: outer, .separatorOrClose, .null⟩ (memberTokens members) =
      some ⟨⟨.object (members.reverse ++ read), true⟩ :: outer, .separatorOrClose, .null⟩ := by
  cases members with
  | nil => rfl
  | cons member members =>
    obtain ⟨name, content⟩ := member
    obtain ⟨first, rest⟩ := Bool.and_eq_true_iff.mp written
    unfold membersHeight at depth
    have value := run_tokens content first ⟨⟨.member read name, true⟩ :: outer, .value, .null⟩ rfl
      (by simp only [List.length_cons]; omega)
    have others := run_memberTokens members rest ((name, content) :: read) outer (by omega)
    rw [List.reverse_cons, List.append_assoc]
    exact Reader.run_then value others

end

/-- A value is what is read from its text. -/
theorem read?_text {json : Json} (written : json.isWritten = true) (back : ∀ x ∈ json.floats, ReadsBack x)
    (depth : json.height ≤ depthLimit) : read? json.text = some json := by
  have scanned := (scans_chars json written back).tokens?_eq
  have run := run_tokens json written ⟨[], .value, .null⟩ rfl (by simpa using depth)
  unfold read? text
  rw [String.toList_ofList, scanned]
  simp only [Option.bind_eq_bind, Option.bind_some, run]
  rfl

end CubeQuery.Json
