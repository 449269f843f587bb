import CubeQuery.Execution.Shift
import CubeQuery.Proofs.Text.Integer
import CubeQuery.Proofs.Text.Span

/-! What reference positions say. Without the blanks around it a position is the word for the first place, or a
name that stands alone or before a sign and a number, with blanks on either side of the sign. A position that is
none of these is refused, and so is one whose number does not fit a word. -/

namespace CubeQuery.Shift

open Text

/-! ### Spans -/

def Blanks (text : List Char) : Prop := ∀ c ∈ text, isBlank c = true

/-- A text that neither begins nor ends with a blank. -/
structure Solid (text : List Char) : Prop where
  first : ∀ c, text.head? = some c → isBlank c = false
  last : ∀ c, text.getLast? = some c → isBlank c = false

theorem trimStart_eq_iff {text rest : List Char} : trimStart text = rest ↔
    ∃ front, text = front ++ rest ∧ Blanks front ∧ ∀ c, rest.head? = some c → isBlank c = false :=
  dropWhile_eq_iff

theorem getLast?_trim {text : List Char} {c : Char} (last : (trim text).getLast? = some c) : isBlank c = false := by
  unfold trim trimEnd at last
  rw [List.getLast?_reverse] at last
  obtain ⟨-, -, -, stops⟩ := trimStart_eq_iff.mp (rfl : trimStart (trimStart text).reverse = _)
  exact stops c last

theorem trim_between {before core after : List Char} (front : Blanks before) (back : Blanks after)
    (solid : Solid core) (nonempty : core ≠ []) : trim (before ++ (core ++ after)) = core := by
  have start : trimStart (before ++ (core ++ after)) = core ++ after := by
    refine trimStart_eq_iff.mpr ⟨before, rfl, front, fun c first => solid.first c ?_⟩
    cases core with
    | nil => exact absurd rfl nonempty
    | cons start rest => exact first
  have stop : trimStart (after.reverse ++ core.reverse) = core.reverse := by
    refine trimStart_eq_iff.mpr ⟨after.reverse, rfl, fun c listed => back c (List.mem_reverse.mp listed), ?_⟩
    intro c first
    rw [List.head?_reverse] at first
    exact solid.last c first
  unfold trim trimEnd
  rw [start, List.reverse_append, stop, List.reverse_reverse]

theorem eq_nil_of_blanks {front spaces : List Char} (blanks : Blanks spaces)
    (solid : ∀ c, (front ++ spaces).getLast? = some c → isBlank c = false) : spaces = [] := by
  rcases List.eq_nil_or_concat spaces with none | ⟨others, c, rfl⟩
  · exact none
  · have blank := blanks c (by simp)
    rw [solid c (by simp)] at blank
    cases blank

/-! ### Names, signs and numbers -/

def StartsName (c : Char) : Prop := ('a' ≤ c ∧ c ≤ 'z') ∨ ('A' ≤ c ∧ c ≤ 'Z') ∨ c = '_'

instance (c : Char) : Decidable (StartsName c) := inferInstanceAs (Decidable (_ ∨ _))

/-- ASCII letters, digits and underscores without a digit in front. -/
inductive IsName : List Char → Prop where
  | start {c : Char} {rest : List Char} (first : StartsName c)
      (parts : ∀ c ∈ rest, StartsName c ∨ ('0' ≤ c ∧ c ≤ '9')) : IsName (c :: rest)

theorem isNameStart_iff {c : Char} : isNameStart c = true ↔ StartsName c := by
  simp [isNameStart, StartsName, or_assoc]

theorem isNamePart_iff {c : Char} : isNamePart c = true ↔ StartsName c ∨ ('0' ≤ c ∧ c ≤ '9') := by
  rw [isNamePart, Bool.or_eq_true, isNameStart_iff, isAsciiDigit_iff]
  rfl

theorem isName_cons_iff {c : Char} {rest : List Char} :
    IsName (c :: rest) ↔ isNameStart c = true ∧ ∀ c ∈ rest, isNamePart c = true := by
  simp only [isNameStart_iff, isNamePart_iff]
  exact ⟨fun ⟨starts, parts⟩ => ⟨starts, parts⟩, fun ⟨starts, parts⟩ => .start starts parts⟩

def signChar (negative : Bool) : Char := if negative then '-' else '+'

def signed (negative : Bool) (n : Nat) : Int := if negative then -n else n

/-- ASCII digits that write a number in base ten, which fits a word. -/
structure Writes (digits : List Char) (n : Nat) : Prop where
  nonempty : digits ≠ []
  ascii : ∀ c ∈ digits, isAsciiDigit c = true
  value : decimalValue digits = n
  fits : FitsWord n

/-- What a position says that has no blanks around it. -/
inductive Says : List Char → Shift → Prop where
  | first : Says "first".toList .first
  | name {name : List Char} (named : IsName name) (other : name ≠ "first".toList) : Says name (.offset 0)
  | moved {name spaces others digits : List Char} {n : Nat} {places : Int64} (named : IsName name)
      (negative : Bool) (before : Blanks spaces) (after : Blanks others) (writes : Writes digits n)
      (told : places.toInt = signed negative n) :
      Says (name ++ (spaces ++ signChar negative :: (others ++ digits))) (.offset places)

theorem isNamePart_of_isNameStart {c : Char} (start : isNameStart c = true) : isNamePart c = true := by
  unfold isNamePart
  rw [start, Bool.true_or]

theorem IsName.parts {name : List Char} (named : IsName name) : ∀ c ∈ name, isNamePart c = true := by
  match name, named with
  | c :: rest, named =>
    obtain ⟨first, parts⟩ := isName_cons_iff.mp named
    exact List.forall_mem_cons.mpr ⟨isNamePart_of_isNameStart first, parts⟩

/-- Letters, digits and underscores are no blanks. -/
theorem isBlank_of_isNamePart {c : Char} (part : isNamePart c = true) : isBlank c = false := by
  have underscore : '_'.toNat = 95 := rfl
  have bounds : (97 ≤ c.toNat ∧ c.toNat ≤ 122) ∨ (65 ≤ c.toNat ∧ c.toNat ≤ 90) ∨ c.toNat = 95 ∨
      (48 ≤ c.toNat ∧ c.toNat ≤ 57) := by
    simp only [isNamePart, isNameStart, Bool.or_eq_true, Bool.and_eq_true, decide_eq_true_eq, beq_iff_eq,
      isAsciiDigit_iff] at part
    rcases part with ((small | capital) | rfl) | digit
    · exact .inl small
    · exact .inr (.inl capital)
    · exact .inr (.inr (.inl underscore))
    · exact .inr (.inr (.inr digit))
  refine Bool.eq_false_iff.mpr fun blank => ?_
  simp only [isBlank, inRanges, blankRanges, List.any_cons, List.any_nil, Bool.or_eq_true, Bool.and_eq_true,
    decide_eq_true_eq, Bool.false_eq_true, or_false] at blank
  omega

theorem isNamePart_of_isBlank {c : Char} (blank : isBlank c = true) : isNamePart c = false := by
  refine Bool.eq_false_iff.mpr fun part => ?_
  rw [isBlank_of_isNamePart part] at blank
  cases blank

theorem signChar_apart (negative : Bool) :
    isBlank (signChar negative) = false ∧ isNamePart (signChar negative) = false := by
  cases negative <;> decide

theorem isDecimalDigit_of_isAsciiDigit {c : Char} (digit : isAsciiDigit c = true) : isDecimalDigit c = true := by
  obtain ⟨low, high⟩ := isAsciiDigit_iff.mp digit
  unfold isDecimalDigit inRanges decimalDigitRanges
  rw [List.any_cons, Bool.or_eq_true]
  exact .inl (by simpa using ⟨low, high⟩)

/-- After its name a position goes on with the first character that is neither part of the name nor blank. -/
theorem afterName?_eq_some {text rest : List Char} : afterName? text = some rest ↔
    ∃ name spaces, text = name ++ (spaces ++ rest) ∧ IsName name ∧ Blanks spaces ∧
      (∀ c, (spaces ++ rest).head? = some c → isNamePart c = false) ∧
      ∀ c, rest.head? = some c → isBlank c = false := by
  cases text with
  | nil =>
    refine iff_of_false nofun ?_
    rintro ⟨name, spaces, empty, named, -⟩
    cases named
    cases empty
  | cons c others =>
    simp only [afterName?]
    by_cases start : isNameStart c = true
    · rw [if_pos start, Option.some.injEq, trimStart_eq_iff]
      constructor
      · rintro ⟨spaces, cut, blanks, solid⟩
        obtain ⟨parts, rfl, all, stops⟩ := dropWhile_eq_iff.mp cut
        exact ⟨c :: parts, spaces, rfl, isName_cons_iff.mpr ⟨start, all⟩, blanks, stops, solid⟩
      · rintro ⟨name, spaces, text_eq, named, blanks, stops, solid⟩
        obtain ⟨starts, parts⟩ := named
        obtain ⟨rfl, rfl⟩ := List.cons.inj text_eq
        obtain ⟨-, all⟩ := isName_cons_iff.mp (.start starts parts)
        exact ⟨spaces, dropWhile_eq_iff.mpr ⟨_, rfl, all, stops⟩, blanks, solid⟩
    · rw [if_neg start]
      refine iff_of_false nofun ?_
      rintro ⟨name, spaces, text_eq, named, -⟩
      obtain ⟨first, -⟩ := named
      obtain ⟨rfl, -⟩ := List.cons.inj text_eq
      exact start (isNameStart_iff.mpr first)

/-! ### Reading -/

theorem unsigned_of_isDecimalDigit {digits : List Char} (decimal : ∀ c ∈ digits, isDecimalDigit c = true) :
    ∀ c ∈ digits, c ≠ '-' ∧ c ≠ '+' := by
  intro c listed
  have digit := decimal c listed
  constructor <;> rintro rfl <;> exact absurd digit (by decide)

theorem Writes.decimal {digits : List Char} {n : Nat} (writes : Writes digits n) :
    ∀ c ∈ digits, isDecimalDigit c = true := fun c listed => isDecimalDigit_of_isAsciiDigit (writes.ascii c listed)

/-- Among decimal digits just those are read as a word that write one. -/
theorem int64?_eq_some {digits : List Char} (decimal : ∀ c ∈ digits, isDecimalDigit c = true) {word : Int64} :
    int64? digits = some word ↔ ∃ n : Nat, Writes digits n ∧ word.toInt = n := by
  unfold int64?
  rw [integer?_unsigned (unsigned_of_isDecimalDigit decimal)]
  simp only [Option.bind_eq_some_iff, Option.map_eq_some_iff, natural?_eq_some, checkedInt64?_eq_some]
  constructor
  · rintro ⟨-, ⟨n, ⟨nonempty, ascii, value⟩, rfl⟩, told⟩
    have told : word.toInt = n := told
    exact ⟨n, ⟨nonempty, ascii, value, told ▸ fitsWord_toInt word⟩, told⟩
  · rintro ⟨n, ⟨nonempty, ascii, value, -⟩, told⟩
    exact ⟨n, ⟨n, ⟨nonempty, ascii, value⟩, rfl⟩, told⟩

/-- The opposite of a number that fits a word fits one too. -/
theorem toInt_signed {n : Nat} {word : Int64} (told : word.toInt = n) (negative : Bool) :
    (if negative then -word else word).toInt = signed negative n := by
  cases negative with
  | false => exact told
  | true =>
    have small := fitsWord_iff.mp (fitsWord_toInt word)
    have opposite : FitsWord (-word.toInt) := fitsWord_iff.mpr (by omega)
    exact (toInt_neg opposite).trans (congrArg Neg.neg told)

theorem readOffset_eq_ok {position : String} {negative : Bool} {digits : List Char} {shift : Shift} :
    readOffset position negative digits = .ok shift ↔ ∃ n places, Writes digits n ∧
      places.toInt = signed negative n ∧ shift = .offset places := by
  unfold readOffset
  by_cases decimal : digits ≠ [] ∧ ∀ c ∈ digits, isDecimalDigit c = true
  · have passes : (digits.isEmpty || !digits.all isDecimalDigit) = false := by
      rw [List.isEmpty_eq_false_iff.mpr decimal.1, List.all_eq_true.mpr decimal.2]
      rfl
    rw [passes]
    cases read : int64? digits with
    | none =>
      refine iff_of_false nofun ?_
      rintro ⟨n, places, writes, -⟩
      have word : int64? digits = some (.ofInt n) :=
        (int64?_eq_some decimal.2).mpr ⟨n, writes, toInt_ofInt writes.fits⟩
      rw [read] at word
      cases word
    | some word =>
      obtain ⟨n, writes, told⟩ := (int64?_eq_some decimal.2).mp read
      constructor
      · intro done
        exact ⟨n, _, writes, toInt_signed told negative, (Except.ok.inj done).symm⟩
      · rintro ⟨m, places, otherWrites, otherTold, rfl⟩
        obtain rfl : n = m := writes.value.symm.trans otherWrites.value
        have same := Int64.toInt_inj.mp ((toInt_signed told negative).trans otherTold.symm)
        exact congrArg (Except.ok ∘ Shift.offset) same
  · have refused : (digits.isEmpty || !digits.all isDecimalDigit) = true := by
      rw [← Bool.not_eq_false]
      intro passes
      rw [Bool.or_eq_false_iff, List.isEmpty_eq_false_iff, Bool.not_eq_false', List.all_eq_true] at passes
      exact decimal passes
    rw [refused]
    refine iff_of_false nofun ?_
    rintro ⟨n, places, writes, -⟩
    exact decimal ⟨writes.nonempty, writes.decimal⟩

theorem error_of_readOffset {position : String} {negative : Bool} {digits : List Char} {error : QueryError}
    (failed : readOffset position negative digits = .error error) :
    error = .invalidQuery (.invalidPosition position) ∨ error = .invalidQuery (.invalidOffset position) := by
  unfold readOffset at failed
  split at failed
  · exact .inl (Except.error.inj failed).symm
  · split at failed
    · exact .inr (Except.error.inj failed).symm
    · cases failed

theorem parseTrimmed_signed {text : List Char} (other : text ≠ "first".toList) {negative : Bool} {rest : List Char}
    (next : afterName? text = some (signChar negative :: rest)) :
    parseTrimmed (String.ofList text) = readOffset (String.ofList text) negative (trimStart rest) := by
  have unlike : String.ofList text ≠ "first" := fun same => other (String.ofList_injective same)
  unfold parseTrimmed
  rw [if_neg unlike, String.toList_ofList, next]
  cases negative <;> rfl

/-- After the name comes nothing, or a sign, or what no position goes on with. -/
theorem parseTrimmed_cases {text : List Char} (other : text ≠ "first".toList) :
    (afterName? text = some [] ∧ parseTrimmed (String.ofList text) = .ok (.offset 0)) ∨
      (∃ negative rest, afterName? text = some (signChar negative :: rest) ∧
        parseTrimmed (String.ofList text) = readOffset (String.ofList text) negative (trimStart rest)) ∨
      (afterName? text ≠ some [] ∧ (∀ negative rest, afterName? text ≠ some (signChar negative :: rest)) ∧
        parseTrimmed (String.ofList text) = .error (.invalidQuery (.invalidPosition (String.ofList text)))) := by
  by_cases signed : ∃ negative rest, afterName? text = some (signChar negative :: rest)
  · obtain ⟨negative, rest, next⟩ := signed
    exact .inr (.inl ⟨negative, rest, next, parseTrimmed_signed other next⟩)
  · have unlike : String.ofList text ≠ "first" := fun same => other (String.ofList_injective same)
    have unsigned (negative : Bool) (rest : List Char) : afterName? text ≠ some (signChar negative :: rest) :=
      fun next => signed ⟨negative, rest, next⟩
    unfold parseTrimmed
    rw [if_neg unlike, String.toList_ofList]
    split
    next none => exact .inr (.inr ⟨by simp [none], unsigned, rfl⟩)
    next nothing => exact .inl ⟨nothing, rfl⟩
    next rest minus => exact absurd minus (unsigned true rest)
    next rest plus => exact absurd plus (unsigned false rest)
    next rest nothing _ _ found =>
      exact .inr (.inr ⟨fun same => nothing (Option.some.inj (found.symm.trans same)), unsigned, rfl⟩)

/-! ### Positions -/

/-- The sign and the digits come after the name, and after blanks at most. -/
theorem afterName?_moved {name spaces others digits : List Char} (named : IsName name) (before : Blanks spaces)
    (negative : Bool) : afterName? (name ++ (spaces ++ signChar negative :: (others ++ digits))) =
      some (signChar negative :: (others ++ digits)) := by
  obtain ⟨solid, outside⟩ := signChar_apart negative
  refine afterName?_eq_some.mpr ⟨name, spaces, rfl, named, before, ?_, ?_⟩
  · intro c first
    cases spaces with
    | nil => exact Option.some.inj first ▸ outside
    | cons blank rest => exact Option.some.inj first ▸ isNamePart_of_isBlank (before blank List.mem_cons_self)
  · exact fun c first => Option.some.inj first ▸ solid

theorem afterName?_name {name : List Char} (named : IsName name) : afterName? name = some [] := by
  refine afterName?_eq_some.mpr ⟨name, [], ?_, named, nofun, nofun, nofun⟩
  rw [List.append_nil, List.append_nil]

theorem Writes.trimStart_eq {others digits : List Char} {n : Nat} (after : Blanks others) (writes : Writes digits n) :
    trimStart (others ++ digits) = digits :=
  trimStart_eq_iff.mpr ⟨others, rfl, after, fun c first =>
    isBlank_of_isAsciiDigit (writes.ascii c (List.mem_of_head? first))⟩

theorem ne_first_of_sign {front rest : List Char} (negative : Bool) :
    front ++ signChar negative :: rest ≠ "first".toList := by
  intro same
  have listed : signChar negative ∈ "first".toList :=
    same ▸ List.mem_append_right front List.mem_cons_self
  cases negative <;> exact absurd listed (by decide)

theorem Says.parseTrimmed_eq {text : List Char} {shift : Shift} (meant : Says text shift) :
    parseTrimmed (String.ofList text) = .ok shift := by
  cases meant with
  | first => rfl
  | name named other =>
    rcases parseTrimmed_cases other with ⟨-, read⟩ | ⟨negative, rest, next, -⟩ | ⟨nothing, -⟩
    · exact read
    · rw [afterName?_name named] at next
      cases next
    · exact absurd (afterName?_name named) nothing
  | @moved name spaces others digits n places named negative before after writes told =>
    have other : name ++ (spaces ++ signChar negative :: (others ++ digits)) ≠ "first".toList := by
      rw [← List.append_assoc]
      exact ne_first_of_sign negative
    rw [parseTrimmed_signed other (afterName?_moved named before negative), writes.trimStart_eq after]
    exact readOffset_eq_ok.mpr ⟨n, places, writes, told, rfl⟩

/-- What is read from a text without a blank at its end says so. -/
theorem meaning_of_parseTrimmed {text : List Char} (solid : ∀ c, text.getLast? = some c → isBlank c = false)
    {shift : Shift} (read : parseTrimmed (String.ofList text) = .ok shift) : Says text shift := by
  by_cases same : text = "first".toList
  · subst same
    obtain rfl := Except.ok.inj read
    exact .first
  · rcases parseTrimmed_cases same with ⟨nothing, here⟩ | ⟨negative, rest, next, here⟩ | ⟨-, -, here⟩
    · obtain ⟨name, spaces, rfl, named, blanks, -, -⟩ := afterName?_eq_some.mp nothing
      obtain rfl : spaces = [] := by
        rw [List.append_nil] at solid
        exact eq_nil_of_blanks blanks solid
      rw [List.append_nil, List.append_nil] at same ⊢
      obtain rfl := Except.ok.inj (here.symm.trans read)
      exact .name named same
    · obtain ⟨name, spaces, rfl, named, before, -, -⟩ := afterName?_eq_some.mp next
      obtain ⟨n, places, writes, told, rfl⟩ := readOffset_eq_ok.mp (here.symm.trans read)
      obtain ⟨others, rest_eq, after, -⟩ := trimStart_eq_iff.mp (rfl : trimStart rest = _)
      rw [rest_eq]
      exact .moved named negative before after writes told
    · rw [here] at read
      cases read

theorem parse_eq_ok {text : String} {shift : Shift} :
    parse text = .ok shift ↔ Says (trim text.toList) shift :=
  ⟨meaning_of_parseTrimmed fun _ => getLast?_trim, Says.parseTrimmed_eq⟩

theorem error_of_parse {text : String} {error : QueryError} (failed : parse text = .error error) :
    error = .invalidQuery (.invalidPosition (String.ofList (trim text.toList))) ∨
      error = .invalidQuery (.invalidOffset (String.ofList (trim text.toList))) := by
  unfold parse at failed
  by_cases same : trim text.toList = "first".toList
  · rw [same] at failed
    cases failed
  · rcases parseTrimmed_cases same with ⟨-, here⟩ | ⟨negative, rest, -, here⟩ | ⟨-, -, here⟩
    · rw [here] at failed
      cases failed
    · exact error_of_readOffset (here.symm.trans failed)
    · exact .inl (Except.error.inj (here.symm.trans failed)).symm

/-- A position begins with a letter or an underscore and ends with a part of a name. -/
theorem Says.solid {text : List Char} {shift : Shift} (meant : Says text shift) : text ≠ [] ∧ Solid text := by
  have parts {text : List Char} (nonempty : text ≠ []) (first : ∀ c, text.head? = some c → isNamePart c = true)
      (last : ∀ c, text.getLast? = some c → isNamePart c = true) : text ≠ [] ∧ Solid text :=
    ⟨nonempty, fun c head => isBlank_of_isNamePart (first c head), fun c final => isBlank_of_isNamePart (last c final)⟩
  cases meant with
  | first =>
    refine parts (by decide) (fun c head => ?_) fun c final => ?_
    · obtain rfl : 'f' = c := Option.some.inj head
      decide
    · obtain rfl : 't' = c := Option.some.inj final
      decide
  | name named other =>
    have all := named.parts
    obtain ⟨-, -⟩ := named
    exact parts (List.cons_ne_nil _ _) (fun c head => all c (List.mem_of_head? head))
      fun c final => all c (List.mem_of_getLast? final)
  | @moved name spaces others digits n places named negative before after writes told =>
    obtain ⟨front, d, rfl⟩ := (List.eq_nil_or_concat digits).resolve_left writes.nonempty
    have digit := writes.ascii d (by simp)
    refine parts (by simp) (fun c head => ?_) fun c final => ?_
    · obtain ⟨starts, -⟩ := named
      exact Option.some.inj head ▸ isNamePart_of_isNameStart (isNameStart_iff.mpr starts)
    · have ends : name ++ (spaces ++ signChar negative :: (others ++ front.concat d)) =
          (name ++ (spaces ++ signChar negative :: (others ++ front))) ++ [d] := by simp
      rw [ends, List.getLast?_concat] at final
      obtain rfl := Option.some.inj final
      unfold isNamePart
      rw [digit, Bool.or_true]

theorem writes_toDigits {n : Nat} (fits : FitsWord n) : Writes (Nat.toDigits 10 n) n where
  nonempty := Nat.toDigits_ne_nil
  ascii _ := isAsciiDigit_of_mem_toDigits
  value := decimalValue_toDigits n
  fits := fits

/-- With any blanks around its parts a name with a sign and a number says the number with that sign. -/
theorem parse_moved {before name spaces others after : List Char} {n : Nat} (front : Blanks before)
    (named : IsName name) (negative : Bool) (left : Blanks spaces) (right : Blanks others) (back : Blanks after)
    (fits : FitsWord n) : ∃ places : Int64, places.toInt = signed negative n ∧
      parse (String.ofList (before ++
        ((name ++ (spaces ++ signChar negative :: (others ++ Nat.toDigits 10 n))) ++ after))) =
          .ok (.offset places) := by
  have word : (Int64.ofInt n).toInt = n := toInt_ofInt fits
  refine ⟨_, toInt_signed word negative, ?_⟩
  have meant := Says.moved named negative left right (writes_toDigits fits) (toInt_signed word negative)
  obtain ⟨nonempty, solid⟩ := meant.solid
  rwa [parse_eq_ok, String.toList_ofList, trim_between front back solid nonempty]

/-- A position is read exactly as what the text without the blanks around it says, and one that says nothing is
refused with that text. A name with a sign and a number that fits a word is always read, as that number with the
sign, however the parts are spaced. -/
theorem positions_read_exactly :
    (∀ text shift, parse text = .ok shift ↔ Says (trim text.toList) shift) ∧
      (∀ text, (∀ shift, ¬Says (trim text.toList) shift) → ∃ misfit, parse text = .error (.invalidQuery misfit) ∧
        (misfit = .invalidPosition (String.ofList (trim text.toList)) ∨
          misfit = .invalidOffset (String.ofList (trim text.toList)))) ∧
      ∀ (before name spaces others after : List Char) (negative : Bool) (n : Nat), Blanks before → IsName name →
        Blanks spaces → Blanks others → Blanks after → FitsWord n →
          ∃ places : Int64, places.toInt = signed negative n ∧
            parse (String.ofList (before ++
              ((name ++ (spaces ++ signChar negative :: (others ++ Nat.toDigits 10 n))) ++ after))) =
                .ok (.offset places) := by
  refine ⟨fun text shift => parse_eq_ok, fun text silent => ?_, ?_⟩
  · cases read : parse text with
    | ok shift => exact absurd (parse_eq_ok.mp read) (silent shift)
    | error error =>
      rcases error_of_parse read with rfl | rfl
      · exact ⟨_, rfl, .inl rfl⟩
      · exact ⟨_, rfl, .inr rfl⟩
  · intro before name spaces others after negative n front named left right back fits
    exact parse_moved front named negative left right back fits

/-- A position with blanks of several kinds is a number of places back, and the name alone keeps the place. -/
theorem spaced_position_read :
    (∃ places : Int64, places.toInt = -7 ∧ parse "\u3000_q2 -\t7\n" = .ok (.offset places)) ∧
      parse "_q2 " = .ok (.offset 0) := by
  obtain ⟨said, -, moved⟩ := positions_read_exactly
  have named : IsName ['_', 'q', '2'] :=
    .start (by decide) (List.forall_mem_cons.mpr ⟨by decide, List.forall_mem_singleton.mpr (by decide)⟩)
  have blank {c : Char} (isBlank : isBlank c = true) : Blanks [c] := List.forall_mem_singleton.mpr isBlank
  exact ⟨moved ['\u3000'] ['_', 'q', '2'] [' '] ['\t'] ['\n'] true 7 (blank (by decide)) named (blank (by decide))
    (blank (by decide)) (blank (by decide)) (by decide), (said "_q2 " (.offset 0)).mpr (.name named (by decide))⟩

/-- The largest number of places can be moved back but not exceeded, and digits of other scripts are none. -/
example : parse "\u3000y -9223372036854775807 " = .ok (.offset (-9223372036854775807)) ∧
    parse "y-9223372036854775808" = .error (.invalidQuery (.invalidOffset "y-9223372036854775808")) ∧
    parse "y+\u0663" = .error (.invalidQuery (.invalidOffset "y+\u0663")) := by
  decide +kernel

end CubeQuery.Shift
