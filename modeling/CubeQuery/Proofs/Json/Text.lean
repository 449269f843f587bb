import CubeQuery.Proofs.Json.Literals
import CubeQuery.Proofs.Json.Reading

/-! A value is told by its text, nested as deep as it may be. No text of a value begins another one: a word
goes on to the character that ends it, and all other values bring their own end. So two texts that go on
differently are still split at the same place, and the parts of a value are compared one after another. -/

namespace CubeQuery.Json

open CubeQuery.Text

/-! ### Words -/

/-- What may follow a value: nothing, or a character that ends a word. -/
def Ends (rest : List Char) : Prop := ∀ c ∈ rest.head?, endsWord c = true

theorem ends_nil : Ends [] := nofun

theorem ends_cons {c : Char} (ends : endsWord c = true) (rest : List Char) : Ends (c :: rest) := by
  rintro _ ⟨⟩
  exact ends

theorem word_append_inj {word other rest after : List Char} (inside : staysInWord word = true)
    (otherInside : staysInWord other = true) (ends : Ends rest) (otherEnds : Ends after)
    (same : word ++ rest = other ++ after) : word = other ∧ rest = after := by
  have split {word rest : List Char} (inside : staysInWord word = true) (ends : Ends rest) :
      (word ++ rest).takeWhile (fun c => !endsWord c) = word := by
    rw [List.takeWhile_append_of_pos (by simpa using staysInWord_iff.mp inside)]
    cases rest with
    | nil => simp
    | cons c rest => simp [ends c rfl]
  have words : word = other := by rw [← split inside ends, same, split otherInside otherEnds]
  exact ⟨words, List.append_cancel_left (words ▸ same)⟩

/-- Whether a value is written as a word. -/
def isWord : Json → Bool
  | .null | .bool _ | .int _ | .real _ => true
  | _ => false

theorem staysInWord_chars {json : Json} (word : json.isWord = true) : staysInWord json.chars = true := by
  cases json with
  | null => rfl
  | bool value => cases value <;> rfl
  | int n => exact staysInWord_int n
  | real x =>
    unfold chars
    split
    · exact staysInWord_literal x
    · rfl
  | _ => cases word

/-- Words that are no floats are scanned as what they were written for. -/
theorem wordToken?_chars {json : Json} (word : json.isWord = true) (written : json.isWritten = true)
    (plain : json.floats = []) : wordToken? json.chars = some (.scalar json) := by
  cases json with
  | null => rfl
  | bool value => cases value <;> rfl
  | int n =>
    obtain ⟨low, high⟩ := Bool.and_eq_true_iff.mp written
    exact wordToken?_int (of_decide_eq_true low) (of_decide_eq_true high)
  | real x => cases plain
  | _ => cases word

/-- A value that is no float does not have the literal of one. -/
theorem chars_ne_literal {json : Json} (word : json.isWord = true) (written : json.isWritten = true)
    (plain : json.floats = []) (x : Double) : json.chars ≠ x.literal.toList := by
  intro same
  have read := wordToken?_chars word written plain
  rw [same] at read
  rcases wordToken?_literal x read with rfl | ⟨y, rfl⟩
  · cases word
  · cases plain

theorem eq_of_word_chars {a b : Json} (word : a.isWord = true) (otherWord : b.isWord = true)
    (written : a.isWritten = true) (otherWritten : b.isWritten = true)
    (finite : ∀ x ∈ a.floats, x.isFinite = true) (otherFinite : ∀ x ∈ b.floats, x.isFinite = true)
    (same : a.chars = b.chars) : a = b := by
  have literal {x : Double} (finite : ∀ y ∈ (Json.real x).floats, y.isFinite = true) :
      (Json.real x).chars = x.literal.toList := by
    unfold chars
    rw [if_pos (finite x (List.mem_singleton_self x))]
  have real (json : Json) : (∃ x, json = .real x) ∨ (json.isWord = true → json.floats = []) := by
    cases json with
    | real x => exact .inl ⟨x, rfl⟩
    | null | bool | int | str => exact .inr fun _ => rfl
    | _ => exact .inr fun word => absurd word Bool.false_ne_true
  rcases real a with ⟨x, rfl⟩ | plain <;> rcases real b with ⟨y, rfl⟩ | otherPlain
  · rw [literal finite, literal otherFinite] at same
    exact congrArg Json.real (literal_injective (String.toList_inj.mp same))
  · exact absurd (same.symm.trans (literal finite))
      (chars_ne_literal otherWord otherWritten (otherPlain otherWord) x)
  · exact absurd (same.trans (literal otherFinite)) (chars_ne_literal word written (plain word) y)
  · have read := wordToken?_chars word written (plain word)
    rw [same, wordToken?_chars otherWord otherWritten (otherPlain otherWord)] at read
    simpa using read.symm

/-! ### Strings -/

/-- The character that a text begins with, which may be escaped, and the rest. -/
def unescape? : List Char → Option (Char × List Char)
  | '\\' :: 'u' :: _ :: _ :: high :: low :: rest =>
    (hexValue? high).bind fun high => (hexValue? low).map fun low => (Char.ofNat (high * 16 + low), rest)
  | '\\' :: c :: rest => (escaped? c).map fun c => (c, rest)
  | c :: rest => some (c, rest)
  | [] => none

theorem unescape?_escapeChar (c : Char) (rest : List Char) :
    unescape? (escapeChar c ++ rest) = some (c, rest) := by
  have named {code : Nat} (same : c.toNat = code) : c = Char.ofNat code := by
    rw [← same, Char.ofNat_toNat]
  unfold escapeChar
  split
  iterate 5 rfl
  next quote backslash newline carriage tab =>
  split
  · next backspace => rw [named backspace]; rfl
  split
  · next feed => rw [named feed]; rfl
  split
  · next control =>
    have high := hexValue?_hexDigit (c.toNat / 16) (by omega)
    have low := hexValue?_hexDigit (c.toNat % 16) (by omega)
    have code : c.toNat / 16 * 16 + c.toNat % 16 = c.toNat := by omega
    simp [unescape?, high, low, code, Char.ofNat_toNat]
  · have notBackslash : c ≠ '\\' := backslash
    simp [unescape?, notBackslash]

theorem escapeChar_append_inj {c d : Char} {rest after : List Char}
    (same : escapeChar c ++ rest = escapeChar d ++ after) : c = d ∧ rest = after := by
  have read := unescape?_escapeChar c rest
  rw [same, unescape?_escapeChar d after] at read
  simpa [eq_comm] using read

theorem escapeChar_append_ne (c : Char) (rest after : List Char) : escapeChar c ++ rest ≠ '"' :: after := by
  unfold escapeChar
  split
  iterate 5 exact fun same => absurd (List.cons.inj same).1 (by decide)
  next quote _ _ _ _ =>
  split_ifs
  iterate 3 exact fun same => absurd (List.cons.inj same).1 (by decide)
  exact fun same => quote (List.cons.inj same).1

theorem escaped_append_inj (s t : List Char) {rest after : List Char}
    (same : s.flatMap escapeChar ++ '"' :: rest = t.flatMap escapeChar ++ '"' :: after) :
    s = t ∧ rest = after := by
  induction s generalizing t with
  | nil =>
    cases t with
    | nil => exact ⟨rfl, (List.cons.inj same).2⟩
    | cons d t =>
      rw [List.flatMap_cons, List.append_assoc] at same
      exact absurd same.symm (escapeChar_append_ne d _ rest)
  | cons c s ih =>
    cases t with
    | nil =>
      rw [List.flatMap_cons, List.append_assoc] at same
      exact absurd same (escapeChar_append_ne c _ after)
    | cons d t =>
      rw [List.flatMap_cons, List.flatMap_cons, List.append_assoc, List.append_assoc] at same
      obtain ⟨rfl, later⟩ := escapeChar_append_inj same
      obtain ⟨rfl, rest⟩ := ih t later
      exact ⟨rfl, rest⟩

theorem quote_append_inj {s t : String} {rest after : List Char} (same : quote s ++ rest = quote t ++ after) :
    s = t ∧ rest = after := by
  unfold quote at same
  simp only [List.cons_append, List.append_assoc, List.nil_append] at same
  obtain ⟨chars, rest⟩ := escaped_append_inj s.toList t.toList (List.cons.inj same).2
  exact ⟨String.toList_inj.mp chars, rest⟩

/-! ### Values -/

/-- The character that a value begins with, if it is no word. -/
def opening? : Json → Option Char
  | .str _ => some '"'
  | .arr _ => some '['
  | .obj _ => some '\x7b'
  | _ => none

theorem endsWord_of_opening? {json : Json} {c : Char} (opens : json.opening? = some c) : endsWord c = true := by
  cases json <;> cases opens <;> rfl

theorem word_chars_ne_nil {json : Json} (word : json.isWord = true) (written : json.isWritten = true) :
    json.chars ≠ [] := by
  intro empty
  cases json with
  | real x =>
    unfold chars at empty
    split at empty
    · obtain ⟨literal, parsed, -⟩ := exists_parse?_literal x
      rw [empty] at parsed
      cases parsed
    · cases empty
  | null | bool | int =>
    have read := wordToken?_chars word written rfl
    rw [empty] at read
    cases read
  | _ => cases word

/-- A value begins with the character that opens it, and a word with one that is inside of words. -/
theorem exists_chars_eq_cons {json : Json} (written : json.isWritten = true) :
    ∃ c rest, json.chars = c :: rest ∧
      (json.opening? = some c ∨ json.opening? = none ∧ json.isWord = true ∧ endsWord c = false) := by
  have inside (word : json.isWord = true) (closed : json.opening? = none) : ∃ c rest, json.chars = c :: rest ∧
      (json.opening? = some c ∨ json.opening? = none ∧ json.isWord = true ∧ endsWord c = false) := by
    obtain ⟨c, rest, chars⟩ := List.exists_cons_of_ne_nil (word_chars_ne_nil word written)
    exact ⟨c, rest, chars, .inr ⟨closed, word,
      staysInWord_iff.mp (staysInWord_chars word) c (chars ▸ List.mem_cons_self)⟩⟩
  cases json with
  | null | bool | int | real => exact inside rfl rfl
  | str s => exact ⟨_, _, rfl, .inl rfl⟩
  | arr items => cases items <;> exact ⟨_, _, rfl, .inl rfl⟩
  | obj members =>
    cases members with
    | nil => exact ⟨_, _, rfl, .inl rfl⟩
    | cons member members => exact ⟨_, _, rfl, .inl rfl⟩
  | unreadable => cases written

theorem opening?_eq_of_append {a b : Json} {rest after : List Char} (written : a.isWritten = true)
    (otherWritten : b.isWritten = true) (same : a.chars ++ rest = b.chars ++ after) :
    a.opening? = b.opening? := by
  obtain ⟨c, others, chars, opens⟩ := exists_chars_eq_cons written
  obtain ⟨d, otherOthers, otherChars, otherOpens⟩ := exists_chars_eq_cons otherWritten
  rw [chars, otherChars] at same
  obtain rfl : c = d := (List.cons.inj same).1
  rcases opens with opens | ⟨closed, -, inside⟩ <;> rcases otherOpens with otherOpens | ⟨otherClosed, -, otherInside⟩
  · rw [opens, otherOpens]
  · exact absurd (endsWord_of_opening? opens) (by simp [otherInside])
  · exact absurd (endsWord_of_opening? otherOpens) (by simp [inside])
  · rw [closed, otherClosed]

/-- No value begins with a bracket that closes. -/
theorem cons_ne_chars_append {json : Json} (written : json.isWritten = true) {c : Char}
    (ends : endsWord c = true) (closes : c ≠ '"' ∧ c ≠ '[' ∧ c ≠ '\x7b') (rest after : List Char) :
    c :: after ≠ json.chars ++ rest := by
  intro same
  obtain ⟨d, others, chars, opens⟩ := exists_chars_eq_cons written
  rw [chars] at same
  obtain rfl : c = d := (List.cons.inj same).1
  rcases opens with opens | ⟨-, -, inside⟩
  · cases json <;> cases opens <;> simp at closes
  · rw [inside] at ends
    cases ends

/-- A list of items is told from the empty one by its first character, and the others begin alike. -/
theorem itemChars_append_eq {items others : List Json} {rest after : List Char}
    (written : itemsWritten items = true) (otherWritten : itemsWritten others = true)
    (same : (Json.arr items).chars ++ rest = (Json.arr others).chars ++ after) :
    itemChars items ++ ']' :: rest = itemChars others ++ ']' :: after := by
  cases items <;> cases others <;>
    simp only [chars, itemChars, List.cons_append, List.append_assoc, List.nil_append, List.cons.injEq,
      true_and] at same ⊢
  case nil.nil => exact same
  case nil.cons => exact absurd same (cons_ne_chars_append (Bool.and_eq_true_iff.mp otherWritten).1 rfl (by decide) _ _)
  case cons.nil => exact absurd same.symm (cons_ne_chars_append (Bool.and_eq_true_iff.mp written).1 rfl (by decide) _ _)
  case cons.cons => exact same

theorem memberChars_append_eq {members others : List (String × Json)} {rest after : List Char}
    (same : (Json.obj members).chars ++ rest = (Json.obj others).chars ++ after) :
    memberChars members ++ '\x7d' :: rest = memberChars others ++ '\x7d' :: after := by
  cases members <;> cases others <;>
    simp only [chars, memberChars, quote, List.cons_append, List.append_assoc, List.nil_append, List.cons.injEq,
      true_and] at same ⊢
  case nil.nil => exact same
  case nil.cons => exact absurd same.1 (by decide)
  case cons.nil => exact absurd same.1 (by decide)
  case cons.cons => exact same

theorem ends_itemChars (items : List Json) (rest : List Char) : Ends (itemChars items ++ ']' :: rest) := by
  cases items with
  | nil => exact ends_cons rfl _
  | cons => exact ends_cons rfl _

theorem ends_memberChars (members : List (String × Json)) (rest : List Char) :
    Ends (memberChars members ++ '\x7d' :: rest) := by
  cases members with
  | nil => exact ends_cons rfl _
  | cons => exact ends_cons rfl _

mutual

/-- Values whose texts begin one text are equal, and so is what follows them. -/
theorem chars_append_inj (a b : Json) {rest after : List Char} (written : a.isWritten = true)
    (otherWritten : b.isWritten = true) (finite : ∀ x ∈ a.floats, x.isFinite = true)
    (otherFinite : ∀ x ∈ b.floats, x.isFinite = true) (ends : Ends rest) (otherEnds : Ends after)
    (same : a.chars ++ rest = b.chars ++ after) : a = b ∧ rest = after := by
  have opens := opening?_eq_of_append written otherWritten same
  cases a with
  | null | bool | int | real =>
    cases b with
    | null | bool | int | real =>
      obtain ⟨words, rest⟩ := word_append_inj (staysInWord_chars rfl) (staysInWord_chars rfl) ends otherEnds same
      exact ⟨eq_of_word_chars rfl rfl written otherWritten finite otherFinite words, rest⟩
    | str | arr | obj => cases opens
    | unreadable => cases otherWritten
  | str s =>
    cases b with
    | str t =>
      obtain ⟨rfl, rest⟩ := quote_append_inj same
      exact ⟨rfl, rest⟩
    | _ => cases opens
  | arr items =>
    cases b with
    | arr others =>
      obtain ⟨rfl, rest⟩ := itemChars_append_inj items others written otherWritten finite otherFinite
        (itemChars_append_eq written otherWritten same)
      exact ⟨rfl, rest⟩
    | _ => cases opens
  | obj members =>
    cases b with
    | obj others =>
      obtain ⟨rfl, rest⟩ := memberChars_append_inj members others written otherWritten finite otherFinite
        (memberChars_append_eq same)
      exact ⟨rfl, rest⟩
    | _ => cases opens
  | unreadable => cases written

theorem itemChars_append_inj (items others : List Json) {rest after : List Char}
    (written : itemsWritten items = true) (otherWritten : itemsWritten others = true)
    (finite : ∀ x ∈ itemFloats items, x.isFinite = true) (otherFinite : ∀ x ∈ itemFloats others, x.isFinite = true)
    (same : itemChars items ++ ']' :: rest = itemChars others ++ ']' :: after) : items = others ∧ rest = after := by
  cases items with
  | nil =>
    cases others with
    | nil => exact ⟨rfl, (List.cons.inj same).2⟩
    | cons => cases (List.cons.inj same).1
  | cons item items =>
    cases others with
    | nil => cases (List.cons.inj same).1
    | cons other others =>
      obtain ⟨first, later⟩ := Bool.and_eq_true_iff.mp written
      obtain ⟨otherFirst, otherLater⟩ := Bool.and_eq_true_iff.mp otherWritten
      obtain ⟨finiteFirst, finiteLater⟩ := List.forall_mem_append.mp finite
      obtain ⟨otherFiniteFirst, otherFiniteLater⟩ := List.forall_mem_append.mp otherFinite
      simp only [itemChars, List.cons_append, List.append_assoc, List.cons.injEq, true_and] at same
      obtain ⟨rfl, behind⟩ := chars_append_inj item other first otherFirst finiteFirst otherFiniteFirst
        (ends_itemChars items rest) (ends_itemChars others after) same
      obtain ⟨rfl, rest⟩ := itemChars_append_inj items others later otherLater finiteLater otherFiniteLater behind
      exact ⟨rfl, rest⟩

theorem memberChars_append_inj (members others : List (String × Json)) {rest after : List Char}
    (written : membersWritten members = true) (otherWritten : membersWritten others = true)
    (finite : ∀ x ∈ memberFloats members, x.isFinite = true)
    (otherFinite : ∀ x ∈ memberFloats others, x.isFinite = true)
    (same : memberChars members ++ '\x7d' :: rest = memberChars others ++ '\x7d' :: after) :
    members = others ∧ rest = after := by
  cases members with
  | nil =>
    cases others with
    | nil => exact ⟨rfl, (List.cons.inj same).2⟩
    | cons => cases (List.cons.inj same).1
  | cons member members =>
    cases others with
    | nil => cases (List.cons.inj same).1
    | cons other others =>
      obtain ⟨name, value⟩ := member
      obtain ⟨otherName, otherValue⟩ := other
      obtain ⟨first, later⟩ := Bool.and_eq_true_iff.mp written
      obtain ⟨otherFirst, otherLater⟩ := Bool.and_eq_true_iff.mp otherWritten
      obtain ⟨finiteFirst, finiteLater⟩ := List.forall_mem_append.mp finite
      obtain ⟨otherFiniteFirst, otherFiniteLater⟩ := List.forall_mem_append.mp otherFinite
      simp only [memberChars, List.cons_append, List.append_assoc, List.cons.injEq, true_and] at same
      obtain ⟨rfl, valued⟩ := quote_append_inj same
      obtain ⟨rfl, behind⟩ := chars_append_inj value otherValue first otherFirst finiteFirst otherFiniteFirst
        (ends_memberChars members rest) (ends_memberChars others after) (List.cons.inj valued).2
      obtain ⟨rfl, rest⟩ := memberChars_append_inj members others later otherLater finiteLater otherFiniteLater behind
      exact ⟨rfl, rest⟩

end

/-- Equal texts are texts of equal values. -/
theorem text_injective {a b : Json} (written : a.isWritten = true) (otherWritten : b.isWritten = true)
    (finite : ∀ x ∈ a.floats, x.isFinite = true) (otherFinite : ∀ x ∈ b.floats, x.isFinite = true)
    (same : a.text = b.text) : a = b := by
  have chars : a.chars ++ [] = b.chars ++ [] := by
    simpa [text] using congrArg String.toList same
  exact (chars_append_inj a b written otherWritten finite otherFinite ends_nil ends_nil chars).1

end CubeQuery.Json
