import CubeQuery.Proofs.Double.Shortest
import CubeQuery.Proofs.Json.Scanning
import CubeQuery.Proofs.Order

/-! The literal of a float is a number literal with a point or an exponent, and the number that it names
rounds to the float. So it is the literal of no other float, and of no integer. -/

namespace CubeQuery.Json

open CubeQuery.Text CubeQuery.Double

/-! ### Digits -/

theorem takeDigits_append {digits rest : List Char} (all : ∀ c ∈ digits, isAsciiDigit c = true)
    (stops : ∀ c ∈ rest.head?, isAsciiDigit c = false) : takeDigits (digits ++ rest) = (digits, rest) := by
  unfold takeDigits
  rw [List.takeWhile_append_of_pos all, List.dropWhile_append_of_pos all]
  cases rest with
  | nil => simp
  | cons c rest =>
    have stop := stops c rfl
    simp [stop]

theorem decimalValue_append (front back : List Char) :
    decimalValue (front ++ back) = decimalValue front * 10 ^ back.length + decimalValue back := by
  induction back using List.reverseRecOn with
  | nil => simp [decimalValue]
  | append_singleton back c ih =>
    have last (digits : List Char) : decimalValue (digits ++ [c]) = decimalValue digits * 10 + asciiDigitValue c := by
      simp [decimalValue]
    rw [← List.append_assoc, last, last, ih, List.length_append, List.length_singleton, Nat.pow_succ]
    ring

theorem decimalValue_zeros (count : Nat) : decimalValue (List.replicate count '0') = 0 := by
  induction count with
  | zero => rfl
  | succ count ih =>
    rw [List.replicate_succ', decimalValue_append, ih]
    rfl

/-! ### The parts of a literal -/

theorem isWholePart_take {digits : List Char} {count : Nat} (whole : isWholePart digits = true)
    (positive : 0 < count) : isWholePart (digits.take count) = true := by
  obtain ⟨count, rfl⟩ := Nat.exists_eq_add_one_of_ne_zero (Nat.ne_of_gt positive)
  unfold isWholePart at whole
  split at whole
  · cases whole
  · simp [isWholePart]
  · have nonzero := bne_iff_ne.mp whole
    simp [List.take_succ_cons, isWholePart, nonzero]

theorem isWholePart_append {n : Nat} (positive : 0 < n) (after : List Char) :
    isWholePart (Nat.toDigits 10 n ++ after) = true := by
  have head := head?_toDigits positive
  cases digits : Nat.toDigits 10 n with
  | nil => exact absurd digits Nat.toDigits_ne_nil
  | cons first rest =>
    rw [digits] at head
    have nonzero : first ≠ '0' := fun zero => head (congrArg some zero)
    simp [isWholePart, nonzero]

def signChars (negative : Bool) : List Char := if negative then ['-'] else []

theorem Literal.parse?_eq {whole rest after : List Char} {fraction : Option (List Char)}
    {exponent : Option (Bool × List Char)} (negative : Bool) (digits : ∀ c ∈ whole, isAsciiDigit c = true)
    (isWhole : isWholePart whole = true) (stops : ∀ c ∈ rest.head?, isAsciiDigit c = false)
    (fractionTaken : takeFraction rest = some (fraction, after))
    (exponentTaken : takeExponent after = some (exponent, [])) :
    Literal.parse? (signChars negative ++ (whole ++ rest)) = some ⟨negative, whole, fraction, exponent⟩ := by
  have taken := takeDigits_append digits stops
  unfold Literal.parse? signChars
  cases negative with
  | true => simp [taken, fractionTaken, exponentTaken, isWhole]
  | false =>
    cases whole with
    | nil => cases isWhole
    | cons first others =>
      have unsigned : first ≠ '-' := by
        rintro rfl
        exact absurd (digits '-' List.mem_cons_self) (by decide)
      simp only [List.cons_append] at taken
      simp [unsigned, taken, fractionTaken, exponentTaken, isWhole]

theorem takeFraction_point {digits rest : List Char} (some : digits ≠ [])
    (all : ∀ c ∈ digits, isAsciiDigit c = true) (stops : ∀ c ∈ rest.head?, isAsciiDigit c = false) :
    takeFraction ('.' :: (digits ++ rest)) = .some (.some digits, rest) := by
  have nonempty : digits.isEmpty = false := by simpa using some
  unfold takeFraction takeSomeDigits
  simp [takeDigits_append all stops, nonempty]

theorem takeExponent_digits (negative : Bool) (n : Nat) :
    takeExponent ('e' :: (if negative then '-' else '+') :: Nat.toDigits 10 n) =
      some (some (negative, Nat.toDigits 10 n), []) := by
  have taken := takeDigits_of_digits (fun c => isAsciiDigit_of_mem_toDigits (n := n) (c := c))
  have nonempty : (Nat.toDigits 10 n).isEmpty = false := by simp [Nat.toDigits_ne_nil]
  cases negative <;> simp [takeExponent, takeSign, takeSomeDigits, taken, nonempty]

/-! ### The number of a literal -/

/-- The number that a literal names exactly, without its sign. -/
def Literal.decimal (literal : Literal) : Decimal :=
  let fraction := literal.fraction.getD []
  let exponent : Int :=
    match literal.exponent with
    | none => 0
    | some (negative, digits) => if negative then -(decimalValue digits : Int) else decimalValue digits
  ⟨decimalValue (literal.whole ++ fraction), exponent - fraction.length⟩

/-- What the literal of a float is taken apart into. -/
structure Literal.IsFloat (literal : Literal) (negative : Bool) (units : ℚ) : Prop where
  sign : literal.negative = negative
  units : literal.decimal.units = units
  /-- No integer has such a literal. -/
  marked : literal.fraction ≠ none ∨ literal.exponent ≠ none

/-- Without a fraction of its own a decimal is written with the fraction zero. -/
theorem exists_parse?_whole (negative : Bool) {d : Decimal} (whole : 0 ≤ d.exponent)
    (zero : d.digits = 0 → d.exponent = 0) :
    ∃ literal, Literal.parse? (signChars negative ++ (d.positional ++ ".0").toList) = some literal ∧
      literal.IsFloat negative d.units := by
  obtain ⟨n, exponent⟩ := d
  obtain ⟨count, rfl⟩ := Int.eq_ofNat_of_zero_le whole
  have digits : ∀ c ∈ Nat.toDigits 10 n ++ List.replicate count '0', isAsciiDigit c = true :=
    fun c listed => (List.mem_append.mp listed).elim isAsciiDigit_of_mem_toDigits mem_zeros
  have isWhole : isWholePart (Nat.toDigits 10 n ++ List.replicate count '0') = true := by
    rcases Nat.eq_zero_or_pos n with rfl | positive
    · obtain rfl : count = 0 := Int.ofNat_eq_zero.mp (zero rfl)
      decide
    · exact isWholePart_append positive _
  have fraction : takeFraction ['.', '0'] = some (some ['0'], []) := by decide
  have parsed := Literal.parse?_eq negative digits isWhole (by rintro _ ⟨⟩; rfl) fraction rfl
  have text : (Decimal.positional ⟨n, count⟩ ++ ".0").toList =
      Nat.toDigits 10 n ++ List.replicate count '0' ++ ['.', '0'] := by
    simp [Decimal.positional]
  refine ⟨_, text ▸ parsed, rfl, ?_, .inl (Option.some_ne_none _)⟩
  have value : decimalValue (Nat.toDigits 10 n ++ List.replicate count '0' ++ ['0']) = n * 10 ^ (count + 1) := by
    rw [List.append_assoc, ← List.replicate_succ', decimalValue_append, decimalValue_toDigits, decimalValue_zeros,
      List.length_replicate, Nat.add_zero]
  unfold Literal.decimal
  simp only [Option.getD_some, value, List.length_singleton]
  rw [Decimal.units_shift]
  congr 2
  push_cast
  ring

/-- The digits of a number with so many zeros in front that a point with `places` digits behind it has one
before it too. -/
def paddedDigits (n places : Nat) : List Char :=
  List.replicate (places + 1 - (Nat.toDigits 10 n).length) '0' ++ Nat.toDigits 10 n

theorem isAsciiDigit_of_mem_paddedDigits {n places : Nat} {c : Char} (listed : c ∈ paddedDigits n places) :
    isAsciiDigit c = true :=
  (List.mem_append.mp listed).elim mem_zeros isAsciiDigit_of_mem_toDigits

theorem lt_length_paddedDigits (n places : Nat) : places < (paddedDigits n places).length := by
  unfold paddedDigits
  rw [List.length_append, List.length_replicate]
  omega

theorem decimalValue_paddedDigits (n places : Nat) : decimalValue (paddedDigits n places) = n := by
  unfold paddedDigits
  rw [decimalValue_append, decimalValue_zeros, decimalValue_toDigits, Nat.zero_mul, Nat.zero_add]

theorem isWholePart_paddedDigits (n places : Nat) :
    isWholePart ((paddedDigits n places).take ((paddedDigits n places).length - places)) = true := by
  by_cases short : (Nat.toDigits 10 n).length ≤ places
  · -- The point stands right behind the first of the zeros.
    have one : (paddedDigits n places).length - places = 1 := by
      unfold paddedDigits
      rw [List.length_append, List.length_replicate]
      omega
    have zeros : places + 1 - (Nat.toDigits 10 n).length = places - (Nat.toDigits 10 n).length + 1 := by omega
    rw [one]
    unfold paddedDigits
    rw [zeros, List.replicate_succ, List.cons_append, List.take_succ_cons, List.take_zero]
    rfl
  · have none : places + 1 - (Nat.toDigits 10 n).length = 0 := by omega
    refine isWholePart_take ?_ (Nat.sub_pos_of_lt (lt_length_paddedDigits n places))
    unfold paddedDigits
    rw [none]
    exact isWholePart_toDigits n

/-- The digits before and behind the point are those of the decimal, with zeros in front. -/
theorem exists_parse?_fraction (negative : Bool) {d : Decimal} (fraction : d.exponent < 0) :
    ∃ literal, Literal.parse? (signChars negative ++ d.positional.toList) = some literal ∧
      literal.IsFloat negative d.units := by
  obtain ⟨n, exponent⟩ := d
  obtain ⟨places, rfl⟩ : ∃ places : Nat, exponent = -places :=
    ⟨(-exponent).toNat, by dsimp only at fraction; omega⟩
  have some : 0 < places := by
    dsimp only at fraction
    omega
  have long := lt_length_paddedDigits n places
  have isWhole := isWholePart_paddedDigits n places
  have value := decimalValue_paddedDigits n places
  have digits : ∀ c ∈ paddedDigits n places, isAsciiDigit c = true := fun c => isAsciiDigit_of_mem_paddedDigits
  have text : (Decimal.positional ⟨n, -places⟩).toList =
      (paddedDigits n places).take ((paddedDigits n places).length - places) ++
        '.' :: ((paddedDigits n places).drop ((paddedDigits n places).length - places) ++ []) := by
    unfold Decimal.positional paddedDigits
    rw [if_neg (by dsimp only; omega)]
    simp only [Int.neg_neg, Int.toNat_natCast, String.toList_append, String.toList_ofList, toString_toList,
      ← String.length_toList, List.append_nil, List.append_assoc]
    rfl
  rw [text]
  generalize paddedDigits n places = padded at *
  have behind : padded.drop (padded.length - places) ≠ [] := by
    rw [ne_eq, List.drop_eq_nil_iff]
    omega
  have length : (padded.drop (padded.length - places)).length = places := by
    rw [List.length_drop]
    omega
  have taken : takeFraction ('.' :: (padded.drop (padded.length - places) ++ [])) =
      .some (.some (padded.drop (padded.length - places)), []) :=
    takeFraction_point behind (fun c listed => digits c (List.mem_of_mem_drop listed)) nofun
  have parsed := Literal.parse?_eq negative (fun c listed => digits c (List.mem_of_mem_take listed)) isWhole
    (by rintro _ ⟨⟩; rfl) taken rfl
  refine ⟨_, parsed, rfl, ?_, .inl (Option.some_ne_none _)⟩
  unfold Literal.decimal
  simp only [Option.getD_some, List.take_append_drop, value, length, zero_sub]

/-- A fraction with its point, if it has a digit. -/
def fractionChars (digits : List Char) : List Char := if digits.isEmpty then [] else '.' :: digits

theorem takeFraction_fractionChars {digits : List Char} (all : ∀ c ∈ digits, isAsciiDigit c = true)
    (rest : List Char) : takeFraction (fractionChars digits ++ 'e' :: rest) =
      some (if digits.isEmpty then none else some digits, 'e' :: rest) := by
  cases digits with
  | nil => rfl
  | cons c digits => exact takeFraction_point (List.cons_ne_nil c digits) all (by rintro _ ⟨⟩; rfl)

theorem head?_fractionChars (digits rest : List Char) :
    ∀ c ∈ (fractionChars digits ++ 'e' :: rest).head?, isAsciiDigit c = false := by
  unfold fractionChars
  split <;> rintro _ ⟨⟩ <;> rfl

theorem scientific_toList (d : Decimal) {exponent : Int}
    (shown : exponent = d.exponent + (Nat.toDigits 10 d.digits).length - 1) :
    d.scientific.toList = (Nat.toDigits 10 d.digits).take 1 ++
      (fractionChars ((Nat.toDigits 10 d.digits).drop 1) ++
        'e' :: (if decide (exponent < 0) then '-' else '+') :: Nat.toDigits 10 exponent.natAbs) := by
  have place : d.exponent + (toString d.digits).length - 1 = exponent := by
    rw [shown, ← String.length_toList, toString_toList]
  have fraction (digits : List Char) : (if digits.isEmpty then "" else "." ++ String.ofList digits).toList =
      fractionChars digits := by
    unfold fractionChars
    split <;> simp
  have sign : (if 0 ≤ exponent then "+" else "-").toList = [if decide (exponent < 0) then '-' else '+'] := by
    by_cases negative : exponent < 0
    · simp [negative, Int.not_le.mpr negative]
    · simp [negative, Int.not_lt.mp negative]
  unfold Decimal.scientific
  dsimp only
  rw [place]
  simp only [String.toList_append, String.toList_ofList, toString_toList, fraction, sign]
  simp

/-- One digit stands before the point, and the exponent makes up for those behind it. -/
theorem exists_parse?_scientific (negative : Bool) (d : Decimal) :
    ∃ literal, Literal.parse? (signChars negative ++ d.scientific.toList) = some literal ∧
      literal.IsFloat negative d.units := by
  obtain ⟨exponent, shown⟩ : ∃ exponent, exponent = d.exponent + (Nat.toDigits 10 d.digits).length - 1 := ⟨_, rfl⟩
  have digits : ∀ c ∈ Nat.toDigits 10 d.digits, isAsciiDigit c = true := fun c => isAsciiDigit_of_mem_toDigits
  have whole : isWholePart ((Nat.toDigits 10 d.digits).take 1) = true :=
    isWholePart_take (isWholePart_toDigits d.digits) Nat.one_pos
  have behind : ((Nat.toDigits 10 d.digits).drop 1).length = (Nat.toDigits 10 d.digits).length - 1 :=
    List.length_drop
  have some : 0 < (Nat.toDigits 10 d.digits).length := Nat.length_toDigits_pos
  have value := decimalValue_toDigits d.digits
  rw [scientific_toList d shown]
  generalize Nat.toDigits 10 d.digits = digitChars at *
  have behindDigits : ∀ c ∈ digitChars.drop 1, isAsciiDigit c = true :=
    fun c listed => digits c (List.mem_of_mem_drop listed)
  have parsed := Literal.parse?_eq negative (fun c listed => digits c (List.mem_of_mem_take listed)) whole
    (head?_fractionChars _ _) (takeFraction_fractionChars behindDigits _)
    (takeExponent_digits (decide (exponent < 0)) exponent.natAbs)
  refine ⟨_, parsed, rfl, ?_, .inr (Option.some_ne_none _)⟩
  have fraction : (if (digitChars.drop 1).isEmpty then none else Option.some (digitChars.drop 1)).getD [] =
      digitChars.drop 1 := by
    split
    · next empty => exact (List.isEmpty_iff.mp empty).symm
    · rfl
  have signed : (if decide (exponent < 0) then -(exponent.natAbs : Int) else exponent.natAbs) = exponent := by
    by_cases below : exponent < 0
    · rw [if_pos (decide_eq_true below)]
      omega
    · rw [if_neg (by simpa using below)]
      omega
  unfold Literal.decimal
  simp only [fraction, List.take_append_drop, value, decimalValue_toDigits, signed, behind]
  congr 2
  omega

/-! ### The literal of a float -/

/-- The decimal that is written for a float. -/
def shownDecimal (x : Double) : Decimal := if x.isZero then ⟨0, 0⟩ else shortest .even x.magnitude

theorem roundsTo_shownDecimal (x : Double) : RoundsTo (shownDecimal x).units x.magnitude := by
  unfold shownDecimal
  split
  · next zero =>
    rw [of_decide_eq_true zero, Decimal.units_eq_zero rfl]
    exact roundsTo_zero
  · next nonzero =>
    exact shortest_roundsTo .even (Nat.pos_of_ne_zero fun zero => nonzero (decide_eq_true zero))

theorem signText_toList (x : Double) : x.signText.toList = signChars x.isNegative := by
  unfold signText signChars
  split <;> rfl

theorem digits_ne_zero_of_roundsTo {d : Decimal} {magnitude : Nat} (rounds : RoundsTo d.units magnitude)
    (positive : 0 < magnitude) : d.digits ≠ 0 := by
  intro none
  have units := rounds.pos positive
  rw [Decimal.units_eq_zero none] at units
  exact units.false

theorem exists_parse?_literal (x : Double) : ∃ literal, Literal.parse? x.literal.toList = some literal ∧
    literal.IsFloat x.isNegative (shownDecimal x).units := by
  have zero : "0.0" = Decimal.positional ⟨0, 0⟩ ++ ".0" := by decide
  unfold Double.literal shownDecimal
  split
  · rw [String.toList_append, signText_toList, zero]
    exact exists_parse?_whole x.isNegative (le_refl 0) fun _ => rfl
  next nonzero =>
  have positive : 0 < x.magnitude := Nat.pos_of_ne_zero fun zero => nonzero (decide_eq_true zero)
  have digits := digits_ne_zero_of_roundsTo (shortest_roundsTo .even positive) positive
  generalize shortest .even x.magnitude = d at digits ⊢
  dsimp only
  split
  · rw [String.append_assoc, String.toList_append, signText_toList]
    split
    · next whole => exact exists_parse?_whole x.isNegative whole fun none => absurd none digits
    · next fraction =>
      rw [String.append_empty]
      exact exists_parse?_fraction x.isNegative (Int.not_le.mp fraction)
  · rw [String.toList_append, signText_toList]
    exact exists_parse?_scientific x.isNegative d

/-- A float is told by its literal. -/
theorem literal_injective {x y : Double} (same : x.literal = y.literal) : x = y := by
  obtain ⟨literal, parsed, float⟩ := exists_parse?_literal x
  obtain ⟨other, otherParsed, otherFloat⟩ := exists_parse?_literal y
  rw [same, otherParsed] at parsed
  obtain rfl := Option.some.inj parsed
  have rounds := roundsTo_shownDecimal x
  rw [← float.units, otherFloat.units] at rounds
  exact eq_of_magnitude_eq (float.sign.symm.trans otherFloat.sign) (rounds.unique (roundsTo_shownDecimal y))

/-- No integer, and no other word, is scanned from the literal of a float. -/
theorem wordToken?_literal (x : Double) {value : Json} (read : wordToken? x.literal.toList = some (.scalar value)) :
    value = .unreadable ∨ ∃ y, value = .real y := by
  obtain ⟨literal, parsed, float⟩ := exists_parse?_literal x
  rw [wordToken?_of_parse? parsed] at read
  obtain rfl : literal.value = value := by simpa using read
  have signed : literal.value = Literal.value.signed literal := by
    unfold Literal.value
    split
    · next none other => exact absurd float.marked (by simp [none, other])
    · rfl
  rw [signed]
  unfold Literal.value.signed
  split
  · exact .inr ⟨_, rfl⟩
  · exact .inl rfl

end CubeQuery.Json
