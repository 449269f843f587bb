import Mathlib.Data.List.TakeWhile
import CubeQuery.Proofs.Checked
import CubeQuery.Text.Blank
import CubeQuery.Text.Integer

/-! Integers and the digits that write them. An integer is read from what it is written as, and of all that it is
read from it is written as the text without blanks, without a plus and without zeros in front. -/

namespace CubeQuery.Text

/-! ### Digits -/

theorem isAsciiDigit_iff {c : Char} : isAsciiDigit c = true ↔ 48 ≤ c.toNat ∧ c.toNat ≤ 57 := by
  unfold isAsciiDigit
  rw [Bool.and_eq_true, decide_eq_true_iff, decide_eq_true_iff]
  exact Iff.rfl

theorem isAsciiDigit_of_isDigit {c : Char} (digit : c.isDigit = true) : isAsciiDigit c = true := by
  unfold Char.isDigit at digit
  unfold isAsciiDigit
  exact digit

theorem isAsciiDigit_of_mem_toDigits {n : Nat} {c : Char} (listed : c ∈ Nat.toDigits 10 n) :
    isAsciiDigit c = true :=
  isAsciiDigit_of_isDigit (Nat.isDigit_of_mem_toDigits (by decide) (by decide) listed)

theorem decimalValue_toDigits (n : Nat) : decimalValue (Nat.toDigits 10 n) = n := by
  have value := @Nat.ofDigitChars_toDigits 10 n (by decide) (by decide)
  unfold Nat.ofDigitChars at value
  unfold decimalValue asciiDigitValue
  simpa only [Nat.mul_comm] using value

/-- The digits of a positive number do not begin with a zero. -/
theorem head?_toDigits {n : Nat} (positive : 0 < n) : (Nat.toDigits 10 n).head? ≠ some '0' := by
  induction n using Nat.strongRecOn with
  | ind n ih =>
    by_cases small : n < 10
    · have digit : ∀ n < 10, 0 < n → n.digitChar ≠ '0' := by decide
      rw [Nat.toDigits_of_lt_base small]
      exact fun zero => digit n small positive (Option.some.inj zero)
    · have leading := ih (n / 10) (by omega) (by omega)
      rw [Nat.toDigits_of_base_le (by decide) (by omega)]
      cases digits : Nat.toDigits 10 (n / 10) with
      | nil => exact absurd digits Nat.toDigits_ne_nil
      | cons first rest => rwa [digits] at leading

theorem head?_toDigits_ne_minus (n : Nat) : (Nat.toDigits 10 n).head? ≠ some '-' := fun minus =>
  absurd (isAsciiDigit_of_mem_toDigits (List.mem_of_head? minus)) (by decide)

theorem toString_toList (n : Nat) : (toString n).toList = Nat.toDigits 10 n := by
  rw [Nat.toString_eq_repr, Nat.repr_eq_ofList_toDigits, String.toList_ofList]

theorem toString_natCast_toList (n : Nat) : (toString (n : Int)).toList = Nat.toDigits 10 n :=
  toString_toList n

theorem toString_neg_toList {n : Nat} (positive : 0 < n) :
    (toString (-(n : Int))).toList = '-' :: Nat.toDigits 10 n := by
  obtain ⟨m, rfl⟩ := Nat.exists_eq_add_one_of_ne_zero (Nat.ne_of_gt positive)
  have text : toString (-((m + 1 : Nat) : Int)) = "-" ++ toString (m + 1) := rfl
  rw [text, String.toList_append, toString_toList]
  rfl

/-! ### Numerals -/

/-- The digits of a number, of which only zero begins with a zero. -/
structure IsNumeral (digits : List Char) : Prop where
  nonempty : digits ≠ []
  ascii : ∀ c ∈ digits, isAsciiDigit c = true
  leading : digits.head? = some '0' → digits = ['0']

theorem digitChar_asciiDigitValue {c : Char} (digit : isAsciiDigit c = true) :
    Nat.digitChar (asciiDigitValue c) = c := by
  obtain ⟨low, high⟩ := isAsciiDigit_iff.mp digit
  have zero : '0'.toNat = 48 := rfl
  apply Char.toNat_inj.mp
  unfold asciiDigitValue
  rw [Nat.toNat_digitChar_of_lt_ten (by omega)]
  omega

/-- Digits that are read behind those of a positive number stand behind them when the number is written. -/
theorem toDigits_foldl {value : Nat} (positive : 0 < value) {digits : List Char}
    (ascii : ∀ c ∈ digits, isAsciiDigit c = true) :
    Nat.toDigits 10 (digits.foldl (fun value c => value * 10 + asciiDigitValue c) value) =
      Nat.toDigits 10 value ++ digits := by
  induction digits generalizing value with
  | nil => rw [List.foldl_nil, List.append_nil]
  | cons c digits ih =>
    obtain ⟨here, later⟩ := List.forall_mem_cons.mp ascii
    obtain ⟨low, high⟩ := isAsciiDigit_iff.mp here
    have small : asciiDigitValue c < 10 := by
      unfold asciiDigitValue
      have zero : '0'.toNat = 48 := rfl
      omega
    have last := Nat.toDigits_append_toDigits (b := 10) (n := value) (d := asciiDigitValue c) (by decide)
      positive small
    rw [Nat.toDigits_of_lt_base small, digitChar_asciiDigitValue here] at last
    rw [List.foldl_cons, ih (by omega) later, Nat.mul_comm, ← last, List.append_assoc, List.singleton_append]

theorem IsNumeral.toDigits_decimalValue {digits : List Char} (numeral : IsNumeral digits) :
    Nat.toDigits 10 (decimalValue digits) = digits := by
  cases digits with
  | nil => exact absurd rfl numeral.nonempty
  | cons c digits =>
    obtain ⟨here, later⟩ := List.forall_mem_cons.mp numeral.ascii
    obtain ⟨low, high⟩ := isAsciiDigit_iff.mp here
    have zero : '0'.toNat = 48 := rfl
    by_cases leading : c = '0'
    · rw [numeral.leading (congrArg some leading)]
      rfl
    · have nonzero : c.toNat ≠ 48 := fun same => leading (Char.toNat_inj.mp (same.trans zero.symm))
      have positive : 0 < asciiDigitValue c := by
        unfold asciiDigitValue
        omega
      have small : asciiDigitValue c < 10 := by
        unfold asciiDigitValue
        omega
      rw [decimalValue, List.foldl_cons, Nat.zero_mul, Nat.zero_add, toDigits_foldl positive later,
        Nat.toDigits_of_lt_base small, digitChar_asciiDigitValue here, List.singleton_append]

theorem isNumeral_toDigits (n : Nat) : IsNumeral (Nat.toDigits 10 n) where
  nonempty := Nat.toDigits_ne_nil
  ascii _ := isAsciiDigit_of_mem_toDigits
  leading zero := by
    rcases Nat.eq_zero_or_pos n with rfl | positive
    · rfl
    · exact absurd zero (head?_toDigits positive)

/-! ### Integers -/

theorem natural?_eq_some {digits : List Char} {n : Nat} : natural? digits = some n ↔
    digits ≠ [] ∧ (∀ c ∈ digits, isAsciiDigit c = true) ∧ decimalValue digits = n := by
  unfold natural?
  rw [Option.ite_none_right_eq_some, Bool.and_eq_true, Bool.not_eq_true', List.isEmpty_eq_false_iff, List.all_eq_true,
    Option.some.injEq, and_assoc]

theorem integer?_unsigned {digits : List Char} (unsigned : ∀ c ∈ digits, c ≠ '-' ∧ c ≠ '+') :
    integer? digits = (natural? digits).map Int.ofNat := by
  unfold integer?
  split
  next rest => exact absurd rfl (unsigned '-' List.mem_cons_self).1
  next rest => exact absurd rfl (unsigned '+' List.mem_cons_self).2
  next => rfl

theorem IsNumeral.natural?_eq {digits : List Char} (numeral : IsNumeral digits) :
    natural? digits = some (decimalValue digits) :=
  natural?_eq_some.mpr ⟨numeral.nonempty, numeral.ascii, rfl⟩

theorem IsNumeral.integer?_eq {digits : List Char} (numeral : IsNumeral digits) :
    integer? digits = some (decimalValue digits) := by
  have unsigned : ∀ c ∈ digits, c ≠ '-' ∧ c ≠ '+' := by
    intro c listed
    have digit := numeral.ascii c listed
    constructor <;> rintro rfl <;> exact absurd digit (by decide)
  rw [integer?_unsigned unsigned, numeral.natural?_eq]
  rfl

theorem integer?_minus (digits : List Char) :
    integer? ('-' :: digits) = (natural? digits).map fun n => -(n : Int) := rfl

theorem integer?_toString (n : Int) : integer? (toString n).toList = some n := by
  rcases Int.lt_or_le n 0 with below | above
  · obtain ⟨m, rfl⟩ := Int.eq_negSucc_of_lt_zero below
    have text : (toString (Int.negSucc m)).toList = '-' :: Nat.toDigits 10 (m + 1) :=
      toString_neg_toList (Nat.succ_pos m)
    rw [text, integer?_minus, (isNumeral_toDigits _).natural?_eq, decimalValue_toDigits]
    rfl
  · obtain ⟨m, rfl⟩ := Int.eq_ofNat_of_zero_le above
    rw [toString_natCast_toList, (isNumeral_toDigits m).integer?_eq, decimalValue_toDigits]
    rfl

/-- A text that an integer is written as. -/
inductive IsPlain : List Char → Prop where
  | unsigned {digits : List Char} (numeral : IsNumeral digits) : IsPlain digits
  | negative {digits : List Char} (numeral : IsNumeral digits) (nonzero : digits ≠ ['0']) :
      IsPlain ('-' :: digits)

theorem IsPlain.toString_eq {text : List Char} (plain : IsPlain text) {n : Int} (read : integer? text = some n) :
    (toString n).toList = text := by
  cases plain with
  | unsigned numeral =>
    rw [numeral.integer?_eq] at read
    rw [← Option.some.inj read, toString_natCast_toList, numeral.toDigits_decimalValue]
  | @negative digits numeral nonzero =>
    rw [integer?_minus, numeral.natural?_eq] at read
    have written := numeral.toDigits_decimalValue
    have positive : 0 < decimalValue digits := by
      refine Nat.pos_of_ne_zero fun zero => nonzero ?_
      rw [← written, zero]
      rfl
    rw [← Option.some.inj read, toString_neg_toList positive, written]

theorem isPlain_toString (n : Int) : IsPlain (toString n).toList := by
  rcases Int.lt_or_le n 0 with below | above
  · obtain ⟨m, rfl⟩ := Int.eq_negSucc_of_lt_zero below
    have text : (toString (Int.negSucc m)).toList = '-' :: Nat.toDigits 10 (m + 1) :=
      toString_neg_toList (Nat.succ_pos m)
    rw [text]
    refine .negative (isNumeral_toDigits _) fun zero => head?_toDigits (Nat.succ_pos m) ?_
    rw [zero]
    rfl
  · obtain ⟨m, rfl⟩ := Int.eq_ofNat_of_zero_le above
    rw [toString_natCast_toList]
    exact .unsigned (isNumeral_toDigits m)

/-! ### Blanks -/

theorem trim_eq_self {text : List Char} (solid : ∀ c ∈ text, isBlank c = false) : trim text = text := by
  have start {text : List Char} (solid : ∀ c ∈ text, isBlank c = false) : trimStart text = text := by
    unfold trimStart
    cases text with
    | nil => rfl
    | cons c rest => rw [List.dropWhile_cons_of_neg (by simp [solid c List.mem_cons_self])]
  unfold trim trimEnd
  rw [start solid, start fun c listed => solid c (List.mem_reverse.mp listed), List.reverse_reverse]

theorem isBlank_of_isAsciiDigit {c : Char} (digit : isAsciiDigit c = true) : isBlank c = false := by
  obtain ⟨low, high⟩ := isAsciiDigit_iff.mp digit
  refine Bool.eq_false_iff.mpr fun blank => ?_
  simp only [isBlank, inRanges, blankRanges, List.any_cons, List.any_nil, Bool.or_eq_true, Bool.and_eq_true,
    decide_eq_true_eq, Bool.false_eq_true, or_false] at blank
  omega

theorem IsNumeral.solid {digits : List Char} (numeral : IsNumeral digits) : ∀ c ∈ digits, isBlank c = false :=
  fun c listed => isBlank_of_isAsciiDigit (numeral.ascii c listed)

theorem IsPlain.trim_eq {text : List Char} (plain : IsPlain text) : trim text = text := by
  refine trim_eq_self ?_
  cases plain with
  | unsigned numeral => exact numeral.solid
  | negative numeral nonzero => exact List.forall_mem_cons.mpr ⟨by decide, numeral.solid⟩

end CubeQuery.Text
