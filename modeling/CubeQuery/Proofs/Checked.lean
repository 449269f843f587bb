import CubeQuery.Checked

/-! Integers that are words of 64 bits, and what checking and clamping them gives. -/

namespace CubeQuery

def FitsWord (n : Int) : Prop := smallestInt64 ≤ n ∧ n ≤ largestInt64

instance (n : Int) : Decidable (FitsWord n) := inferInstanceAs (Decidable (_ ∧ _))

theorem fitsWord_iff {n : Int} : FitsWord n ↔ -9223372036854775808 ≤ n ∧ n ≤ 9223372036854775807 := Iff.rfl

theorem fitsWord_toInt (n : Int64) : FitsWord n.toInt := by
  have low := n.le_toInt
  have high := n.toInt_lt
  exact fitsWord_iff.mpr ⟨by omega, by omega⟩

theorem toInt_ofInt {n : Int} (fits : FitsWord n) : (Int64.ofInt n).toInt = n := by
  obtain ⟨low, high⟩ := fitsWord_iff.mp fits
  exact Int64.toInt_ofInt_of_le (by omega) (by omega)

theorem toInt_neg {n : Int64} (fits : FitsWord (-n.toInt)) : (-n).toInt = -n.toInt := by
  obtain ⟨low, high⟩ := fitsWord_iff.mp fits
  rw [Int64.toInt_neg, Int.bmod_eq_of_le (by omega) (by omega)]

theorem checkedInt64?_eq (n : Int) : checkedInt64? n = if FitsWord n then some (.ofInt n) else none := rfl

theorem checkedInt64?_toInt (n : Int64) : checkedInt64? n.toInt = some n := by
  rw [checkedInt64?_eq, if_pos (fitsWord_toInt n), Int64.ofInt_toInt]

theorem checkedInt64?_eq_some {n : Int} {word : Int64} : checkedInt64? n = some word ↔ word.toInt = n := by
  constructor
  · intro checked
    rw [checkedInt64?_eq] at checked
    split at checked
    next fits => rw [← Option.some.inj checked, toInt_ofInt fits]
    next => cases checked
  · rintro rfl
    exact checkedInt64?_toInt word

theorem map_toInt_checkedInt64? (n : Int) :
    (checkedInt64? n).map Int64.toInt = if FitsWord n then some n else none := by
  rw [checkedInt64?_eq]
  split
  next fits => rw [Option.map_some, toInt_ofInt fits]
  next => rfl

theorem clampedInt64_of_le {n : Int} (low : n ≤ smallestInt64) : clampedInt64 n = .ofInt smallestInt64 := by
  have ends : smallestInt64 ≤ largestInt64 := by decide
  unfold clampedInt64
  rw [Int.min_eq_right (Int.le_trans low ends), Int.max_eq_left low]

theorem clampedInt64_of_ge {n : Int} (high : largestInt64 ≤ n) : clampedInt64 n = .ofInt largestInt64 := by
  have ends : smallestInt64 ≤ largestInt64 := by decide
  unfold clampedInt64
  rw [Int.min_eq_left high, Int.max_eq_right ends]

theorem clampedInt64_of_fits {n : Int} (fits : FitsWord n) : (clampedInt64 n).toInt = n := by
  obtain ⟨low, high⟩ := fits
  unfold clampedInt64
  rw [Int.min_eq_right high, Int.max_eq_right low, toInt_ofInt ⟨low, high⟩]

end CubeQuery
