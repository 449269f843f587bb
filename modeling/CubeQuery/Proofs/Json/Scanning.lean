import Mathlib.Data.List.TakeWhile
import CubeQuery.Json.Reader
import CubeQuery.Proofs.Text.Integer

/-! The text of a JSON value is scanned into the tokens of the value. A word ends with the character behind
it, so a scanner that stands in a word holds one token more than it has listed; punctuation, which stands
behind every value but the last, makes it list that one too. -/

namespace CubeQuery.Json

open CubeQuery.Text

/-! ### Integers -/

theorem takeDigits_of_digits {digits : List Char} (all : ∀ c ∈ digits, isAsciiDigit c = true) :
    takeDigits digits = (digits, []) := by
  unfold takeDigits
  rw [List.takeWhile_eq_self_iff.mpr all, List.dropWhile_eq_nil_iff.mpr all]

theorem isWholePart_toDigits (n : Nat) : isWholePart (Nat.toDigits 10 n) = true := by
  rcases Nat.eq_zero_or_pos n with rfl | positive
  · decide
  · have head := head?_toDigits positive
    cases digits : Nat.toDigits 10 n with
    | nil => exact absurd digits Nat.toDigits_ne_nil
    | cons first rest =>
      rw [digits] at head
      have nonzero : first ≠ '0' := fun zero => head (congrArg some zero)
      unfold isWholePart
      split
      · contradiction
      · rfl
      · simp_all

theorem parse?_toDigits (n : Nat) :
    Literal.parse? (Nat.toDigits 10 n) = some ⟨false, Nat.toDigits 10 n, none, none⟩ := by
  have sign := head?_toDigits_ne_minus n
  have taken := takeDigits_of_digits (fun c => isAsciiDigit_of_mem_toDigits (n := n) (c := c))
  have whole := isWholePart_toDigits n
  cases digits : Nat.toDigits 10 n with
  | nil => exact absurd digits Nat.toDigits_ne_nil
  | cons first rest =>
    rw [digits] at sign taken whole
    have positive : first ≠ '-' := fun minus => sign (congrArg some minus)
    unfold Literal.parse?
    simp [positive, taken, takeFraction, takeExponent, whole]

theorem parse?_minus_toDigits (n : Nat) :
    Literal.parse? ('-' :: Nat.toDigits 10 n) = some ⟨true, Nat.toDigits 10 n, none, none⟩ := by
  have taken := takeDigits_of_digits (fun c => isAsciiDigit_of_mem_toDigits (n := n) (c := c))
  unfold Literal.parse?
  simp [taken, takeFraction, takeExponent, isWholePart_toDigits n]

/-- A word that is a number is no other word. -/
theorem wordToken?_of_parse? {word : List Char} {literal : Literal}
    (parsed : Literal.parse? word = some literal) : wordToken? word = some (.scalar literal.value) := by
  have other {name : String} (unparsed : (Literal.parse? name.toList).isNone = true) :
      word ≠ name.toList := by
    rintro rfl
    rw [parsed] at unparsed
    cases unparsed
  unfold wordToken?
  rw [if_neg (other (by decide)), if_neg (other (by decide)), if_neg (other (by decide)), parsed]
  rfl

theorem wordToken?_int {n : Int} (low : -(Nat.pow 2 63 : Int) ≤ n) (high : n ≤ largestWord) :
    wordToken? (toString n).toList = some (.scalar (.int n)) := by
  cases n with
  | ofNat m =>
    have text : (toString (Int.ofNat m)).toList = Nat.toDigits 10 m := toString_natCast_toList m
    have small : m ≤ largestWord := Int.ofNat_le.mp high
    rw [text, wordToken?_of_parse? (parse?_toDigits m)]
    unfold Literal.value
    simp [decimalValue_toDigits, small]
  | negSucc m =>
    have text : (toString (Int.negSucc m)).toList = '-' :: Nat.toDigits 10 (m + 1) :=
      toString_neg_toList (Nat.succ_pos m)
    have small : m + 1 ≤ Nat.pow 2 63 := by omega
    rw [text, wordToken?_of_parse? (parse?_minus_toDigits (m + 1))]
    unfold Literal.value
    simp [decimalValue_toDigits, small, Int.negSucc_eq]

/-! ### Runs of the scanner -/

theorem Scanner.run_append (scanner : Scanner) (front back : List Char) :
    scanner.run (front ++ back) = (scanner.run front).bind (·.run back) := by
  induction front generalizing scanner with
  | nil => rfl
  | cons c rest ih =>
    rw [List.cons_append, Scanner.run, Scanner.run]
    cases scanner.step c with
    | none => rfl
    | some next => exact ih next

/-- A text that leads the scanner from one gap to the end of the given tokens. -/
def Scans (chars : List Char) (tokens : List Token) : Prop :=
  ∀ before, ∃ scanner, Scanner.run ⟨.gap, before⟩ chars = some scanner ∧
    scanner.finish? = some (before.reverse ++ tokens)

theorem Scans.tokens?_eq {chars : List Char} {tokens : List Token} (scans : Scans chars tokens) :
    tokens? chars = some tokens := by
  obtain ⟨scanner, run, finish⟩ := scans []
  unfold tokens?
  rw [run]
  exact finish

theorem scans_nil : Scans [] [] := fun before => ⟨⟨.gap, before⟩, rfl, by simp [Scanner.finish?]⟩

theorem Scanner.start_punctuation {c : Char} {token : Token} (mark : punctuation? c = some token)
    (tokens : List Token) : Scanner.start tokens c = ⟨.gap, token :: tokens⟩ := by
  unfold punctuation? at mark
  split at mark <;> first | (cases mark; rfl) | cases mark

/-- Punctuation ends the word before it. -/
theorem Scanner.step_punctuation {scanner : Scanner} {tokens : List Token} {c : Char} {token : Token}
    (finish : scanner.finish? = some tokens) (mark : punctuation? c = some token) :
    scanner.step c = some ⟨.gap, token :: tokens.reverse⟩ := by
  have ends : endsWord c = true := by simp [endsWord, mark]
  obtain ⟨place, before⟩ := scanner
  unfold Scanner.finish? at finish
  unfold Scanner.step
  cases place with
  | gap =>
    cases finish
    simp [Scanner.start_punctuation mark]
  | word chars =>
    obtain ⟨last, read, rfl⟩ := Option.map_eq_some_iff.mp finish
    simp [ends, read, Scanner.start_punctuation mark]
  | string | escape | codeUnit => cases finish

theorem Scans.punctuation {front back : List Char} {tokens others : List Token} {c : Char} {token : Token}
    (scans : Scans front tokens) (mark : punctuation? c = some token) (rest : Scans back others) :
    Scans (front ++ c :: back) (tokens ++ token :: others) := by
  intro before
  obtain ⟨scanner, run, finish⟩ := scans before
  obtain ⟨last, runRest, finishRest⟩ := rest (token :: (before.reverse ++ tokens).reverse)
  refine ⟨last, ?_, by rw [finishRest]; simp⟩
  rw [Scanner.run_append, run]
  show Scanner.run scanner (c :: back) = _
  unfold Scanner.run
  rw [Scanner.step_punctuation finish mark]
  exact runRest

/-! ### Words -/

/-- Whether none of the characters ends the word that it stands in. -/
def staysInWord (chars : List Char) : Bool := chars.all fun c => !endsWord c

theorem staysInWord_iff {chars : List Char} :
    staysInWord chars = true ↔ ∀ c ∈ chars, endsWord c = false := by
  simp [staysInWord]

theorem Scanner.run_word {word : List Char} (inside : ∀ c ∈ word, endsWord c = false)
    (chars : List Char) (tokens : List Token) :
    Scanner.run ⟨.word chars, tokens⟩ word = some ⟨.word (word.reverse ++ chars), tokens⟩ := by
  induction word generalizing chars with
  | nil => rfl
  | cons c rest ih =>
    obtain ⟨here, later⟩ := List.forall_mem_cons.mp inside
    unfold Scanner.run Scanner.step
    simp only [here, Bool.false_eq_true, if_false]
    rw [ih later, List.reverse_cons, List.append_assoc]
    rfl

theorem Scanner.start_word {c : Char} (inside : endsWord c = false) (tokens : List Token) :
    Scanner.start tokens c = ⟨.word [c], tokens⟩ := by
  unfold endsWord at inside
  simp only [Bool.or_eq_false_iff, decide_eq_false_iff_not, Option.isSome_eq_false_iff,
    Option.isNone_iff_eq_none] at inside
  obtain ⟨⟨gap, quote⟩, mark⟩ := inside
  unfold Scanner.start
  rw [gap, if_neg (by decide), if_neg quote, mark]

theorem Scanner.run_gap_word {word : List Char} (nonempty : word ≠ [])
    (inside : ∀ c ∈ word, endsWord c = false) (tokens : List Token) :
    Scanner.run ⟨.gap, tokens⟩ word = some ⟨.word word.reverse, tokens⟩ := by
  cases word with
  | nil => contradiction
  | cons c rest =>
    obtain ⟨here, later⟩ := List.forall_mem_cons.mp inside
    unfold Scanner.run Scanner.step
    dsimp only
    rw [Scanner.start_word here, Scanner.run_word later, List.reverse_cons]

theorem scans_word {word : List Char} {token : Token} (inside : staysInWord word = true)
    (read : wordToken? word = some token) : Scans word [token] := by
  have nonempty : word ≠ [] := by
    rintro rfl
    cases read
  exact fun before =>
    ⟨_, Scanner.run_gap_word nonempty (staysInWord_iff.mp inside) before, by simp [Scanner.finish?, read]⟩

/-! ### Numbers -/

theorem staysInWord_append {s other : String} (inside : staysInWord s.toList = true)
    (after : staysInWord other.toList = true) : staysInWord (s ++ other).toList = true := by
  unfold staysInWord at *
  rw [String.toList_append, List.all_append, inside, after]
  rfl

theorem endsWord_of_isAsciiDigit {c : Char} (digit : isAsciiDigit c = true) : endsWord c = false := by
  have other {m : Char} (none : isAsciiDigit m = false) : c ≠ m := by
    rintro rfl
    rw [digit] at none
    cases none
  have unmarked : punctuation? c = none := by
    unfold punctuation?
    split <;> first | exact absurd rfl (other (by decide)) | rfl
  unfold endsWord isGap
  simp only [unmarked, other (m := ' ') (by decide), other (m := '\n') (by decide),
    other (m := '\t') (by decide), other (m := '\r') (by decide), other (m := '"') (by decide)]
  rfl

theorem staysInWord_digits {s : List Char} (digits : ∀ c ∈ s, isAsciiDigit c = true) :
    staysInWord (String.ofList s).toList = true := by
  rw [String.toList_ofList]
  exact staysInWord_iff.mpr fun c listed => endsWord_of_isAsciiDigit (digits c listed)

theorem mem_toString {n : Nat} {c : Char} (listed : c ∈ (toString n).toList) : isAsciiDigit c = true := by
  rw [toString_toList] at listed
  exact isAsciiDigit_of_mem_toDigits listed

theorem staysInWord_toString (n : Nat) : staysInWord (toString n).toList = true :=
  staysInWord_iff.mpr fun _ listed => endsWord_of_isAsciiDigit (mem_toString listed)

theorem staysInWord_int (n : Int) : staysInWord (toString n).toList = true := by
  cases n with
  | ofNat m => exact staysInWord_toString m
  | negSucc m => exact staysInWord_append (s := "-") rfl (staysInWord_toString (m + 1))

theorem scans_int {n : Int} (low : -(Nat.pow 2 63 : Int) ≤ n) (high : n ≤ largestWord) :
    Scans (toString n).toList [.scalar (.int n)] :=
  scans_word (staysInWord_int n) (wordToken?_int low high)

theorem mem_zeros {count : Nat} {c : Char} (listed : c ∈ List.replicate count '0') :
    isAsciiDigit c = true := by
  rw [List.eq_of_mem_replicate listed]
  rfl

theorem staysInWord_positional (d : Double.Decimal) : staysInWord d.positional.toList = true := by
  unfold Double.Decimal.positional
  dsimp only
  split
  · exact staysInWord_append (staysInWord_toString _) (staysInWord_digits fun c => mem_zeros)
  · have padded (c : Char) (count : Nat) (listed : c ∈ List.replicate count '0' ++ (toString d.digits).toList) :
        isAsciiDigit c = true :=
      (List.mem_append.mp listed).elim mem_zeros mem_toString
    refine staysInWord_append (staysInWord_append ?_ rfl) ?_
    · exact staysInWord_digits fun c listed => padded c _ (List.mem_of_mem_take listed)
    · exact staysInWord_digits fun c listed => padded c _ (List.mem_of_mem_drop listed)

theorem staysInWord_scientific (d : Double.Decimal) : staysInWord d.scientific.toList = true := by
  unfold Double.Decimal.scientific
  dsimp only
  refine staysInWord_append (staysInWord_append (staysInWord_append (staysInWord_append ?_ ?_) rfl) ?_)
    (staysInWord_toString _)
  · exact staysInWord_digits fun c listed => mem_toString (List.mem_of_mem_take listed)
  · split
    · rfl
    · exact staysInWord_append rfl
        (staysInWord_digits fun c listed => mem_toString (List.mem_of_mem_drop listed))
  · split <;> rfl

theorem staysInWord_literal (x : Double) : staysInWord x.literal.toList = true := by
  have sign : staysInWord x.signText.toList = true := by
    unfold Double.signText
    split <;> rfl
  unfold Double.literal
  dsimp only
  split
  · exact staysInWord_append sign rfl
  split
  · refine staysInWord_append (staysInWord_append sign (staysInWord_positional _)) ?_
    split <;> rfl
  · exact staysInWord_append sign (staysInWord_scientific _)

theorem wordToken?_scalar {word : List Char} {token : Token} (read : wordToken? word = some token) :
    ∃ value, token = .scalar value := by
  unfold wordToken? at read
  split at read
  · exact ⟨_, (Option.some.inj read).symm⟩
  split at read
  · exact ⟨_, (Option.some.inj read).symm⟩
  split at read
  · exact ⟨_, (Option.some.inj read).symm⟩
  · obtain ⟨literal, -, rfl⟩ := Option.map_eq_some_iff.mp read
    exact ⟨_, rfl⟩

/-- A word that is read as a value is scanned as that value. -/
theorem scans_of_read? {s : String} {value : Json} (inside : staysInWord s.toList = true)
    (read : read? s = some value) : Scans s.toList [.scalar value] := by
  have nonempty : s.toList ≠ [] := by
    intro empty
    unfold read? at read
    rw [empty] at read
    cases read
  have run := Scanner.run_gap_word nonempty (staysInWord_iff.mp inside) []
  unfold read? tokens? at read
  rw [run] at read
  simp only [Option.bind_some, Scanner.finish?, List.reverse_reverse, Option.bind_eq_bind] at read
  obtain ⟨tokens, listed, read⟩ := Option.bind_eq_some_iff.mp read
  obtain ⟨token, word, rfl⟩ := Option.map_eq_some_iff.mp listed
  obtain ⟨found, rfl⟩ := wordToken?_scalar word
  have same : found = value := Option.some.inj read
  exact scans_word inside (same ▸ word)

/-! ### Strings -/

theorem hexValue?_hexDigit : ∀ digit < 16, hexValue? (hexDigit digit) = some digit := by
  decide

/-- What an escaped character is scanned as stands for the character, whatever follows. -/
theorem Scanner.run_escapeChar (c : Char) (pieces : List Piece) (tokens : List Token) :
    ∃ piece, Scanner.run ⟨.string pieces, tokens⟩ (escapeChar c) = some ⟨.string (piece :: pieces), tokens⟩ ∧
      ∀ rest, joinPieces (piece :: rest) = (joinPieces rest).map (c :: ·) := by
  unfold escapeChar
  split
  iterate 5 exact ⟨.char _, rfl, fun _ => rfl⟩
  next quote backslash newline carriage tab =>
  have named {code : Nat} (same : c.toNat = code) : c = Char.ofNat code := by
    rw [← same, Char.ofNat_toNat]
  split
  · next backspace => exact ⟨.char c, by rw [named backspace]; rfl, fun _ => rfl⟩
  split
  · next feed => exact ⟨.char c, by rw [named feed]; rfl, fun _ => rfl⟩
  split
  · next control =>
    have high := hexValue?_hexDigit (c.toNat / 16) (by omega)
    have low := hexValue?_hexDigit (c.toNat % 16) (by omega)
    have zero : hexValue? '0' = some 0 := by decide
    have code : ((0 * 16 + 0) * 16 + c.toNat / 16) * 16 + c.toNat % 16 = c.toNat := by omega
    refine ⟨.unit c.toNat, ?_, fun rest => ?_⟩
    · simp [Scanner.run, Scanner.step, zero, high, low]
      omega
    · have notHigh : isHighSurrogate c.toNat = false := by simp [isHighSurrogate]; omega
      have notLow : isLowSurrogate c.toNat = false := by simp [isLowSurrogate]; omega
      rw [joinPieces.eq_def]
      simp [notHigh, notLow, Char.ofNat_toNat]
  · next printable =>
    have notQuote : c ≠ '"' := quote
    have notBackslash : c ≠ '\\' := backslash
    exact ⟨.char c, by simp [Scanner.run, Scanner.step, notQuote, notBackslash, printable], fun _ => rfl⟩

theorem Scanner.run_escaped (s : List Char) (pieces : List Piece) (tokens : List Token) :
    ∃ added, Scanner.run ⟨.string pieces, tokens⟩ (s.flatMap escapeChar) =
        some ⟨.string (added.reverse ++ pieces), tokens⟩ ∧
      joinPieces added = some s := by
  induction s generalizing pieces with
  | nil => exact ⟨[], rfl, rfl⟩
  | cons c rest ih =>
    obtain ⟨piece, run, join⟩ := Scanner.run_escapeChar c pieces tokens
    obtain ⟨added, runRest, joinRest⟩ := ih (piece :: pieces)
    refine ⟨piece :: added, ?_, by rw [join, joinRest]; rfl⟩
    rw [List.flatMap_cons, Scanner.run_append, run]
    show Scanner.run _ _ = _
    rw [runRest, List.reverse_cons, List.append_assoc]
    rfl

theorem scans_quote (s : String) : Scans (quote s) [.quoted (some s)] := by
  intro before
  obtain ⟨added, run, join⟩ := Scanner.run_escaped s.toList [] before
  refine ⟨⟨.gap, .quoted (some s) :: before⟩, ?_, by simp [Scanner.finish?]⟩
  show Scanner.run ⟨.string [], before⟩ (s.toList.flatMap escapeChar ++ ['"']) = _
  rw [Scanner.run_append, run]
  simp [Scanner.run, Scanner.step, join]

end CubeQuery.Json
