import CubeQuery.Proofs.Checked
import CubeQuery.Proofs.Double.Shortest
import CubeQuery.Proofs.Order

/-! Whole numbers among the floats. A number of units that some float has is not changed by rounding, so a float
that is read as an integer is what the integer is rounded to, but for the negative zero. -/

namespace CubeQuery.Double

/-! ### Rounding -/

theorem roundHalfEven_mul (quotient : Nat) {den : Nat} (positive : 0 < den) :
    roundHalfEven (quotient * den) den = quotient := by
  unfold roundHalfEven
  rw [Nat.mul_mod_left, Nat.mul_div_cancel _ positive]
  exact if_pos positive

theorem log2_significand {fraction : Nat} (small : fraction < Nat.pow 2 52) (exponent : Nat) :
    ((Nat.pow 2 52 + fraction) * Nat.pow 2 exponent).log2 = 52 + exponent := by
  simp only [Nat.pow_eq] at small ⊢
  have positive : (2 ^ 52 + fraction) * 2 ^ exponent ≠ 0 := by positivity
  refine (Nat.log2_eq_iff positive).mpr ⟨?_, ?_⟩
  · rw [Nat.pow_add]
    exact Nat.mul_le_mul_right _ (Nat.le_add_right _ _)
  · rw [Nat.add_right_comm, Nat.pow_add]
    exact Nat.mul_lt_mul_of_pos_right (by omega) (Nat.two_pow_pos exponent)

theorem rounded_unitsOf (magnitude : Nat) : rounded (unitsOf magnitude) = magnitude := by
  have bit : Nat.pow 2 52 = 4503599627370496 := rfl
  unfold unitsOf rounded shiftOf
  split
  next small =>
    have short : magnitude.log2 - 52 = 0 := by
      rcases Nat.eq_zero_or_pos magnitude with rfl | positive
      · rfl
      · exact Nat.sub_eq_zero_of_le (Nat.le_of_lt ((Nat.log2_lt (Nat.ne_of_gt positive)).mpr small))
    have exact := roundHalfEven_mul magnitude Nat.one_pos
    rw [Nat.mul_one] at exact
    rw [short, Nat.zero_mul, Nat.zero_add]
    exact exact
  next normal =>
    have positive : 0 < Nat.pow 2 (magnitude / Nat.pow 2 52 - 1) := Nat.two_pow_pos _
    rw [log2_significand (Nat.mod_lt _ (Nat.two_pow_pos 52)), Nat.add_sub_cancel_left,
      roundHalfEven_mul _ positive]
    rw [bit] at normal ⊢
    omega

theorem roundUnits_unitsOf {magnitude : Nat} (finite : magnitude < infinityMagnitude) :
    roundUnits (unitsOf magnitude) 1 = magnitude := by
  rw [roundUnits_one, rounded_unitsOf]
  exact Nat.min_eq_left (Nat.le_of_lt finite)

theorem ofMagnitude_eq {x : Double} {negative : Bool} (sign : x.isNegative = negative) :
    ofMagnitude negative x.magnitude = x := by
  have small : x.magnitude < Nat.pow 2 63 := Nat.mod_lt _ (Nat.two_pow_pos 63)
  refine eq_of_orderKey_eq ?_
  rw [orderKey_ofMagnitude _ small, ← sign]
  rfl

theorem magnitude_eq_zero {x : Double} (zero : x.units = 0) : x.magnitude = 0 :=
  unitsOf_strictMono.injective (zero.trans (show 0 = unitsOf 0 by decide))

/-! ### Whole numbers -/

/-- An integer that a float is read as has all of its units, and its sign if it has one. -/
theorem toInt?_eq_some {x : Double} {n : Int} (whole : x.toInt? = some n) :
    x.magnitude < infinityMagnitude ∧ n.natAbs * unitsPerOne = x.units ∧
      n = if x.isNegative then -(n.natAbs : Int) else n.natAbs := by
  unfold toInt? at whole
  rw [Option.ite_none_right_eq_some, Bool.and_eq_true] at whole
  obtain ⟨⟨finite, divides⟩, value⟩ := whole
  have units : x.units / unitsPerOne * unitsPerOne = x.units :=
    Nat.div_mul_cancel (Nat.dvd_of_mod_eq_zero (beq_iff_eq.mp divides))
  have count : n.natAbs = x.units / unitsPerOne := by
    rw [← Option.some.inj value]
    split
    · rw [Int.natAbs_neg, Int.natAbs_natCast]
    · rw [Int.natAbs_natCast]
  exact ⟨of_decide_eq_true finite, by rw [count, units], by rw [count, ← Option.some.inj value]⟩

/-- An integer that a float is read as is negative if the float is, unless both are zero. -/
theorem isNegative_of_toInt? {x : Double} {n : Int} (whole : x.toInt? = some n) (signed : x ≠ negativeZero) :
    x.isNegative = decide (n < 0) := by
  obtain ⟨-, units, value⟩ := toInt?_eq_some whole
  cases negative : x.isNegative with
  | false =>
    rw [negative, if_neg Bool.false_ne_true] at value
    exact (decide_eq_false (by omega)).symm
  | true =>
    rw [negative, if_pos rfl] at value
    refine (decide_eq_true ?_).symm
    by_contra notBelow
    have zero : n.natAbs = 0 := by omega
    rw [zero, Nat.zero_mul] at units
    have same := ofMagnitude_eq negative
    rw [magnitude_eq_zero units.symm] at same
    exact signed same.symm

theorem ofInt_of_toInt? {x : Double} {n : Int} (whole : x.toInt? = some n) (signed : x ≠ negativeZero) :
    ofInt n = x := by
  obtain ⟨finite, units, -⟩ := toInt?_eq_some whole
  rw [ofInt, ofUnits, units, Double.units, roundUnits_unitsOf finite]
  exact ofMagnitude_eq (isNegative_of_toInt? whole signed)

/-- The largest word is rounded to the power of two behind it, which is clamped to it. -/
theorem ofInt_clampedInt64 {x : Double} {n : Int} (whole : x.toInt? = some n) (signed : x ≠ negativeZero)
    (low : smallestInt64 ≤ n) (high : n ≤ largestInt64 + 1) : ofInt (clampedInt64 n).toInt = x := by
  rcases Int.le_iff_lt_or_eq.mp high with below | last
  · rw [clampedInt64_of_fits ⟨low, Int.lt_add_one_iff.mp below⟩]
    exact ofInt_of_toInt? whole signed
  · have rounds : ofInt (clampedInt64 (largestInt64 + 1)).toInt = ofInt (largestInt64 + 1) := by decide +kernel
    rw [last, rounds, ← last]
    exact ofInt_of_toInt? whole signed

/-- No other float is what its clamped integer is written as. -/
theorem bounds_of_ofInt_clampedInt64 {x : Double} {n : Int} (whole : x.toInt? = some n)
    (kept : ofInt (clampedInt64 n).toInt = x) : x ≠ negativeZero ∧ smallestInt64 ≤ n ∧ n ≤ largestInt64 + 1 := by
  have first : (ofInt (Int64.ofInt smallestInt64).toInt).toInt? = some smallestInt64 := by decide +kernel
  have last : (ofInt (Int64.ofInt largestInt64).toInt).toInt? = some (largestInt64 + 1) := by decide +kernel
  refine ⟨?_, Int.not_lt.mp fun below => ?_, Int.not_lt.mp fun above => ?_⟩
  · rintro rfl
    have zero : negativeZero.toInt? = some 0 := by decide +kernel
    obtain rfl := Option.some.inj (zero.symm.trans whole)
    exact absurd kept (by decide +kernel)
  · rw [clampedInt64_of_le (Int.le_of_lt below)] at kept
    rw [kept, whole] at first
    exact absurd (Option.some.inj first) (Int.ne_of_lt below)
  · rw [clampedInt64_of_ge (by omega)] at kept
    rw [kept, whole] at last
    exact absurd (Option.some.inj last) (Int.ne_of_gt above)

/-- A clamped integer that a float is read as is read again once it is a float. -/
theorem toInt?_ofInt_clampedInt64 {x : Double} {n : Int} (whole : x.toInt? = some n) :
    (ofInt (clampedInt64 n).toInt).toInt?.map clampedInt64 = some (clampedInt64 n) := by
  let again (word : Int64) : Option Int64 := (ofInt word.toInt).toInt?.map clampedInt64
  have first : again (.ofInt smallestInt64) = some (.ofInt smallestInt64) := by decide +kernel
  have last : again (.ofInt largestInt64) = some (.ofInt largestInt64) := by decide +kernel
  rcases Int.lt_or_le n smallestInt64 with below | low
  · rw [clampedInt64_of_le (Int.le_of_lt below)]
    exact first
  rcases Int.lt_or_le (largestInt64 + 1) n with above | high
  · rw [clampedInt64_of_ge (by omega)]
    exact last
  by_cases signed : x = negativeZero
  · have zero : negativeZero.toInt? = some 0 := by decide +kernel
    rw [signed, zero] at whole
    obtain rfl := Option.some.inj whole
    decide +kernel
  · rw [ofInt_clampedInt64 whole signed low high, whole]
    rfl

end CubeQuery.Double
