import Mathlib.Algebra.Order.Field.Power
import Mathlib.Algebra.Order.Field.Rat
import Mathlib.Tactic.Linarith
import Mathlib.Tactic.Positivity
import Mathlib.Tactic.Ring
import CubeQuery.Double.Shortest

/-! The shortest decimal of a number rounds to the number, and what rounds to one number rounds to no other.
So a decimal that is written for a number tells which number it was written for. -/

namespace CubeQuery.Double

/-! ### Units -/

/-- The distance from a magnitude to the next one. -/
def gap (magnitude : Nat) : Nat := 2 ^ (magnitude / Nat.pow 2 52 - 1)

theorem gap_pos (magnitude : Nat) : 0 < gap magnitude := Nat.two_pow_pos _

/-- Below the next power of two the significand grows by one, and there it carries into the exponent. -/
theorem unitsOf_succ (magnitude : Nat) : unitsOf (magnitude + 1) = unitsOf magnitude + gap magnitude := by
  have bit : Nat.pow 2 52 = 4503599627370496 := rfl
  unfold unitsOf gap
  simp only [bit, Nat.pow_eq]
  by_cases small : magnitude < 4503599627370496
  · have exponent : magnitude / 4503599627370496 = 0 := by omega
    rw [if_pos small, exponent]
    by_cases next : magnitude + 1 < 4503599627370496
    · rw [if_pos next, Nat.zero_sub, Nat.pow_zero]
    · obtain rfl : magnitude = 4503599627370495 := by omega
      rfl
  · rw [if_neg small, if_neg (by omega)]
    by_cases carry : magnitude % 4503599627370496 + 1 = 4503599627370496
    · have fraction : (magnitude + 1) % 4503599627370496 = 0 := by omega
      have exponent : (magnitude + 1) / 4503599627370496 - 1 = magnitude / 4503599627370496 - 1 + 1 := by omega
      rw [fraction, exponent, Nat.pow_succ, ← Nat.succ_mul, Nat.succ_eq_add_one, Nat.add_assoc, carry]
      ring
    · have fraction : (magnitude + 1) % 4503599627370496 = magnitude % 4503599627370496 + 1 := by omega
      have exponent : (magnitude + 1) / 4503599627370496 = magnitude / 4503599627370496 := by omega
      rw [fraction, exponent, ← Nat.succ_mul, Nat.succ_eq_add_one, Nat.add_assoc]

theorem unitsOf_strictMono : StrictMono unitsOf :=
  strictMono_nat_of_lt_succ fun magnitude => by
    rw [unitsOf_succ]
    exact Nat.lt_add_of_pos_right (gap_pos magnitude)

/-- A significand has 53 bits. -/
theorem unitsOf_lt (magnitude : Nat) : unitsOf magnitude < 2 ^ 53 * gap magnitude := by
  have bit : Nat.pow 2 52 = 4503599627370496 := rfl
  unfold unitsOf gap
  simp only [bit, Nat.pow_eq]
  split
  · have exponent : magnitude / 4503599627370496 = 0 := by omega
    rw [exponent]
    omega
  · exact Nat.mul_lt_mul_of_pos_right (by omega) (Nat.two_pow_pos _)

/-! ### What rounds to a magnitude -/

/-- Between the midpoints to the neighbours; an even magnitude takes the midpoints too. -/
def RoundsTo (units : ℚ) (magnitude : Nat) : Prop :=
  if magnitude % 2 = 0 then
    (unitsOf (magnitude - 1) + unitsOf magnitude : ℚ) ≤ 2 * units ∧
      2 * units ≤ unitsOf magnitude + unitsOf (magnitude + 1)
  else
    (unitsOf (magnitude - 1) + unitsOf magnitude : ℚ) < 2 * units ∧
      2 * units < unitsOf magnitude + unitsOf (magnitude + 1)

theorem RoundsTo.bounds {units : ℚ} {magnitude : Nat} (rounds : RoundsTo units magnitude) :
    (unitsOf (magnitude - 1) + unitsOf magnitude : ℚ) ≤ 2 * units ∧
      2 * units ≤ unitsOf magnitude + unitsOf (magnitude + 1) := by
  unfold RoundsTo at rounds
  split at rounds
  · exact rounds
  · exact ⟨rounds.1.le, rounds.2.le⟩

theorem roundsTo_of_lt {units : ℚ} {magnitude : Nat}
    (lower : (unitsOf (magnitude - 1) + unitsOf magnitude : ℚ) < 2 * units)
    (upper : 2 * units < unitsOf magnitude + unitsOf (magnitude + 1)) : RoundsTo units magnitude := by
  unfold RoundsTo
  split
  · exact ⟨lower.le, upper.le⟩
  · exact ⟨lower, upper⟩

theorem roundsTo_zero : RoundsTo 0 0 := by
  unfold RoundsTo
  norm_num [unitsOf]

/-- The intervals of two magnitudes have at most a midpoint in common, which the even one takes. -/
theorem RoundsTo.not_lt {units : ℚ} {magnitude other : Nat} (rounds : RoundsTo units magnitude)
    (rounds' : RoundsTo units other) : ¬ magnitude < other := by
  intro less
  have upper : (unitsOf magnitude : ℚ) ≤ unitsOf (other - 1) := by
    exact_mod_cast unitsOf_strictMono.monotone (Nat.le_sub_one_of_lt less)
  have lower : (unitsOf (magnitude + 1) : ℚ) ≤ unitsOf other := by
    exact_mod_cast unitsOf_strictMono.monotone less
  by_cases neighbours : magnitude + 1 = other
  · -- One of two neighbours is odd, and does not take the midpoint between them.
    unfold RoundsTo at rounds rounds'
    split at rounds <;> split at rounds'
    · omega
    · linarith [rounds.2, rounds'.1]
    · linarith [rounds.2, rounds'.1]
    · linarith [rounds.2, rounds'.1]
  · have apart : (unitsOf (magnitude + 1) : ℚ) < unitsOf other := by
      exact_mod_cast unitsOf_strictMono (show magnitude + 1 < other by omega)
    linarith [rounds.bounds.2, rounds'.bounds.1]

theorem RoundsTo.unique {units : ℚ} {magnitude other : Nat} (rounds : RoundsTo units magnitude)
    (rounds' : RoundsTo units other) : magnitude = other :=
  Nat.le_antisymm (Nat.le_of_not_lt (rounds'.not_lt rounds)) (Nat.le_of_not_lt (rounds.not_lt rounds'))

theorem RoundsTo.pos {units : ℚ} {magnitude : Nat} (rounds : RoundsTo units magnitude)
    (positive : 0 < magnitude) : 0 < units := by
  have less : (unitsOf 0 : ℚ) < unitsOf magnitude := by exact_mod_cast unitsOf_strictMono positive
  have zero : (unitsOf 0 : ℚ) = 0 := by norm_num [unitsOf]
  have below : (0 : ℚ) ≤ unitsOf (magnitude - 1) := Nat.cast_nonneg _
  linarith [rounds.bounds.1]

/-! ### Decimals -/

/-- The number of a decimal, in units. -/
def Decimal.units (d : Decimal) : ℚ := d.digits * (10 : ℚ) ^ d.exponent * unitsPerOne

theorem Decimal.units_eq_zero {d : Decimal} (none : d.digits = 0) : d.units = 0 := by
  unfold Decimal.units
  rw [none, Nat.cast_zero, zero_mul, zero_mul]

theorem Decimal.units_shift (digits count : Nat) (exponent : Int) :
    Decimal.units ⟨digits * 10 ^ count, exponent⟩ = Decimal.units ⟨digits, exponent + count⟩ := by
  unfold Decimal.units
  dsimp only
  push_cast
  rw [zpow_add₀ (by norm_num), zpow_natCast]
  ring

theorem Decimal.units_trim (bound : Nat) (d : Decimal) : (d.trim bound).units = d.units := by
  induction bound generalizing d with
  | zero => rfl
  | succ bound ih =>
    unfold Decimal.trim
    split
    · next whole =>
      have digits : d.digits / 10 * 10 ^ 1 = d.digits := Nat.div_mul_cancel (Nat.dvd_of_mod_eq_zero whole.1)
      rw [ih, ← Nat.cast_one, ← Decimal.units_shift, digits]
    · rfl

/-! ### Grids -/

/-- A grid of decimals is compared with units after both are multiplied by its spread. -/
def gridSpread (exponent : Int) : Nat := if exponent < 0 then Nat.pow 10 (-exponent).toNat else 1

/-- The distance of two neighbours on a grid, in units times its spread. -/
def gridStep (exponent : Int) : Nat :=
  if exponent < 0 then unitsPerOne else unitsPerOne * Nat.pow 10 exponent.toNat

theorem gridSpread_pos (exponent : Int) : 0 < gridSpread exponent := by
  unfold gridSpread
  split
  · exact Nat.pow_pos (by decide)
  · exact Nat.one_pos

theorem unitsPerOne_pos : 0 < unitsPerOne := by decide +kernel

theorem cast_pow_ten (n : Nat) : ((Nat.pow 10 n : Nat) : ℚ) = (10 : ℚ) ^ n := by
  rw [Nat.pow_eq, Nat.cast_pow]
  rfl

theorem gridStep_eq (exponent : Int) :
    (gridStep exponent : ℚ) = (10 : ℚ) ^ exponent * unitsPerOne * gridSpread exponent := by
  unfold gridStep gridSpread
  split
  · next negative =>
    rw [cast_pow_ten, ← zpow_natCast, Int.toNat_of_nonneg (by omega), mul_right_comm,
      ← zpow_add₀ (by norm_num), add_neg_cancel, zpow_zero, one_mul]
  · next positive =>
    rw [Nat.cast_mul, cast_pow_ten, ← zpow_natCast, Int.toNat_of_nonneg (by omega), Nat.cast_one, mul_one,
      mul_comm]

theorem gridStep_pos (exponent : Int) : 0 < gridStep exponent := by
  unfold gridStep
  split
  · exact unitsPerOne_pos
  · exact Nat.mul_pos unitsPerOne_pos (Nat.pow_pos (by decide))

theorem units_mul_gridSpread (digits : Nat) (exponent : Int) :
    Decimal.units ⟨digits, exponent⟩ * gridSpread exponent = digits * gridStep exponent := by
  unfold Decimal.units
  rw [gridStep_eq]
  ring

/-- Whether a point of a grid rounds to a magnitude. -/
def gridHits (magnitude : Nat) (exponent : Int) (digits : Nat) : Bool :=
  let low := (unitsOf (magnitude - 1) + unitsOf magnitude) * gridSpread exponent
  let high := (unitsOf magnitude + unitsOf (magnitude + 1)) * gridSpread exponent
  if magnitude % 2 = 0 then
    low ≤ 2 * digits * gridStep exponent && 2 * digits * gridStep exponent ≤ high
  else low < 2 * digits * gridStep exponent && 2 * digits * gridStep exponent < high

theorem gridHits_iff {magnitude digits : Nat} {exponent : Int} :
    gridHits magnitude exponent digits = true ↔ RoundsTo (Decimal.units ⟨digits, exponent⟩) magnitude := by
  have spread : (0 : ℚ) < gridSpread exponent := by exact_mod_cast gridSpread_pos exponent
  have point : ((2 * digits * gridStep exponent : Nat) : ℚ) =
      2 * Decimal.units ⟨digits, exponent⟩ * gridSpread exponent := by
    push_cast
    rw [mul_assoc, ← units_mul_gridSpread]
    ring
  have above (units : Nat) : units * gridSpread exponent ≤ 2 * digits * gridStep exponent ↔
      (units : ℚ) ≤ 2 * Decimal.units ⟨digits, exponent⟩ := by
    rw [← Nat.cast_le (α := ℚ), point, Nat.cast_mul, mul_le_mul_iff_left₀ spread]
  have below (units : Nat) : 2 * digits * gridStep exponent ≤ units * gridSpread exponent ↔
      2 * Decimal.units ⟨digits, exponent⟩ ≤ (units : ℚ) := by
    rw [← Nat.cast_le (α := ℚ), point, Nat.cast_mul, mul_le_mul_iff_left₀ spread]
  unfold gridHits RoundsTo
  dsimp only
  rw [← Nat.cast_add, ← Nat.cast_add]
  split
  · rw [Bool.and_eq_true, decide_eq_true_iff, decide_eq_true_iff, above, below]
  · rw [Bool.and_eq_true, decide_eq_true_iff, decide_eq_true_iff, ← Nat.not_le, ← Nat.not_le, above, below,
      not_le, not_le]

/-- The point of a grid below a magnitude. -/
def gridBelow (magnitude : Nat) (exponent : Int) : Nat :=
  unitsOf magnitude * gridSpread exponent / gridStep exponent

theorem onGrid?_eq (tie : Tie) (magnitude : Nat) (exponent : Int) :
    onGrid? tie magnitude exponent =
      let below := gridBelow magnitude exponent
      let under := unitsOf magnitude * gridSpread exponent - below * gridStep exponent
      let above := (below + 1) * gridStep exponent - unitsOf magnitude * gridSpread exponent
      match gridHits magnitude exponent below, gridHits magnitude exponent (below + 1) with
      | false, false => none
      | true, false => some ⟨below, exponent⟩
      | false, true => some ⟨below + 1, exponent⟩
      | true, true =>
        if under < above then some ⟨below, exponent⟩
        else if above < under then some ⟨below + 1, exponent⟩
        else match tie with
          | .up => some ⟨below + 1, exponent⟩
          | .even => some ⟨below + below % 2, exponent⟩ :=
  rfl

/-- A grid gives a point that rounds to the magnitude, unless the point just above the magnitude does not. -/
theorem onGrid?_cases (tie : Tie) (magnitude : Nat) (exponent : Int) :
    (∃ d, onGrid? tie magnitude exponent = some d ∧ RoundsTo d.units magnitude) ∨
      onGrid? tie magnitude exponent = none ∧
        ¬ RoundsTo (Decimal.units ⟨gridBelow magnitude exponent + 1, exponent⟩) magnitude := by
  rw [onGrid?_eq]
  dsimp only
  generalize gridBelow magnitude exponent = below
  split
  · next missed => exact .inr ⟨rfl, fun rounds => absurd (gridHits_iff.mpr rounds) (by simp [missed])⟩
  · next hit _ => exact .inl ⟨_, rfl, gridHits_iff.mp hit⟩
  · next hit => exact .inl ⟨_, rfl, gridHits_iff.mp hit⟩
  · next low high =>
    rw [gridHits_iff] at low high
    left
    split
    · exact ⟨_, rfl, low⟩
    split
    · exact ⟨_, rfl, high⟩
    cases tie with
    | up => exact ⟨_, rfl, high⟩
    | even =>
      rcases Nat.mod_two_eq_zero_or_one below with even | odd
      · exact ⟨_, rfl, by rwa [even]⟩
      · exact ⟨_, rfl, by rwa [odd]⟩

/-- The point above a magnitude is past it, by a step at most. -/
theorem gridBelow_succ (magnitude : Nat) (exponent : Int) :
    let above := Decimal.units ⟨gridBelow magnitude exponent + 1, exponent⟩
    (unitsOf magnitude : ℚ) < above ∧ above ≤ unitsOf magnitude + (10 : ℚ) ^ exponent * unitsPerOne := by
  have spread : (0 : ℚ) < gridSpread exponent := by exact_mod_cast gridSpread_pos exponent
  have point := units_mul_gridSpread (gridBelow magnitude exponent + 1) exponent
  have past : unitsOf magnitude * gridSpread exponent <
      (gridBelow magnitude exponent + 1) * gridStep exponent := by
    rw [Nat.mul_comm (_ + 1)]
    exact Nat.lt_mul_div_succ _ (gridStep_pos exponent)
  have before : gridBelow magnitude exponent * gridStep exponent ≤ unitsOf magnitude * gridSpread exponent :=
    Nat.div_mul_le_self _ _
  have past' : (unitsOf magnitude * gridSpread exponent : ℚ) <
      (gridBelow magnitude exponent + 1 : Nat) * gridStep exponent := by exact_mod_cast past
  have before' : (gridBelow magnitude exponent * gridStep exponent : ℚ) ≤
      unitsOf magnitude * gridSpread exponent := by exact_mod_cast before
  refine ⟨lt_of_mul_lt_mul_right (point ▸ past') spread.le, le_of_mul_le_mul_right ?_ spread⟩
  calc Decimal.units ⟨gridBelow magnitude exponent + 1, exponent⟩ * gridSpread exponent
      = gridBelow magnitude exponent * gridStep exponent + gridStep exponent := by
        rw [point]
        push_cast
        ring
    _ ≤ unitsOf magnitude * gridSpread exponent + gridStep exponent := by linarith
    _ = (unitsOf magnitude + (10 : ℚ) ^ exponent * unitsPerOne) * gridSpread exponent := by
        rw [gridStep_eq]
        ring

/-- A fine grid has a point that rounds to the magnitude. -/
theorem onGrid?_fine (tie : Tie) {magnitude : Nat} {exponent : Int}
    (fine : 2 * ((10 : ℚ) ^ exponent * unitsPerOne) < gap magnitude) :
    ∃ d, onGrid? tie magnitude exponent = some d ∧ RoundsTo d.units magnitude := by
  refine (onGrid?_cases tie magnitude exponent).resolve_right fun missed => missed.2 ?_
  obtain ⟨past, near⟩ := gridBelow_succ magnitude exponent
  have lower : (unitsOf (magnitude - 1) : ℚ) ≤ unitsOf magnitude := by
    exact_mod_cast unitsOf_strictMono.monotone (Nat.sub_le magnitude 1)
  have upper : (unitsOf (magnitude + 1) : ℚ) = unitsOf magnitude + gap magnitude := by
    exact_mod_cast unitsOf_succ magnitude
  exact roundsTo_of_lt (by linarith) (by linarith)

theorem firstGrid_roundsTo (tie : Tie) {magnitude : Nat} (count : Nat) {exponent : Int}
    (fine : 2 * ((10 : ℚ) ^ (exponent - count) * unitsPerOne) < gap magnitude) :
    RoundsTo (firstGrid tie magnitude (count + 1) exponent).units magnitude := by
  induction count generalizing exponent with
  | zero =>
    rw [Nat.cast_zero, sub_zero] at fine
    obtain ⟨d, found, rounds⟩ := onGrid?_fine tie fine
    unfold firstGrid
    rwa [found]
  | succ count ih =>
    have rest : RoundsTo (firstGrid tie magnitude (count + 1) (exponent - 1)).units magnitude :=
      ih (by rwa [sub_sub, add_comm (1 : Int), ← Nat.cast_succ])
    unfold firstGrid
    rcases onGrid?_cases tie magnitude exponent with ⟨d, found, rounds⟩ | ⟨missed, -⟩
    · rwa [found]
    · rwa [missed]

/-! ### The place of a number -/

theorem pow_decimalLength_le {n : Nat} (positive : 0 < n) : 10 ^ (decimalLength n - 1) ≤ n := by
  by_contra less
  by_cases single : decimalLength n - 1 = 0
  · rw [single, pow_zero] at less
    exact less positive
  · have shorter : decimalLength n ≤ decimalLength n - 1 :=
      (Nat.length_toDigits_le_iff (by decide) (Nat.pos_of_ne_zero single)).mpr (Nat.lt_of_not_le less)
    omega

/-- A number is at least the power of ten at its first digit. -/
theorem pow_decimalPlace_le {units : Nat} (positive : 0 < units) :
    (10 : ℚ) ^ (decimalPlace units - 1) * unitsPerOne ≤ units := by
  have small : unitsPerOne ≤ Nat.pow 10 400 := by decide +kernel
  unfold decimalPlace
  generalize quotient : units * Nat.pow 10 400 / unitsPerOne = n
  have scaled : 0 < n := by
    rw [← quotient]
    exact Nat.div_pos (Nat.le_trans small (Nat.le_mul_of_pos_left _ positive)) unitsPerOne_pos
  have digits : 1 ≤ decimalLength n := Nat.length_toDigits_pos
  have bound : 10 ^ (decimalLength n - 1) * unitsPerOne ≤ units * Nat.pow 10 400 :=
    calc 10 ^ (decimalLength n - 1) * unitsPerOne
        ≤ n * unitsPerOne := Nat.mul_le_mul_right _ (pow_decimalLength_le scaled)
      _ ≤ units * Nat.pow 10 400 := quotient ▸ Nat.div_mul_le_self _ _
  have bound' : (10 : ℚ) ^ (decimalLength n - 1) * unitsPerOne ≤ units * 10 ^ 400 := by
    have casted := Nat.cast_le (α := ℚ).mpr bound
    simpa only [Nat.cast_mul, Nat.cast_pow, Nat.cast_ofNat, cast_pow_ten] using casted
  have place : (10 : ℚ) ^ ((decimalLength n : Int) - 400 - 1) * 10 ^ 400 = 10 ^ (decimalLength n - 1) := by
    rw [← zpow_natCast, ← zpow_natCast, ← zpow_add₀ (by norm_num)]
    congr 1
    push_cast [digits]
    ring
  refine le_of_mul_le_mul_right ?_ (show (0 : ℚ) < 10 ^ 400 by positivity)
  rwa [mul_right_comm, place]

/-- Seventeen places from the first digit on, two steps are less than the distance to the next magnitude. -/
theorem shortest_roundsTo (tie : Tie) {magnitude : Nat} (positive : 0 < magnitude) :
    RoundsTo (shortest tie magnitude).units magnitude := by
  have units : 0 < unitsOf magnitude := unitsOf_strictMono positive
  have first := pow_decimalPlace_le units
  have bits : (unitsOf magnitude : ℚ) < 2 ^ 53 * gap magnitude := by exact_mod_cast unitsOf_lt magnitude
  unfold shortest
  rw [Decimal.units_trim]
  generalize decimalPlace (unitsOf magnitude) - 1 = place at first ⊢
  refine firstGrid_roundsTo tie 17 ?_
  calc 2 * ((10 : ℚ) ^ (place - (17 : Nat)) * unitsPerOne)
      = 2 * ((10 : ℚ) ^ place * unitsPerOne) / 10 ^ 17 := by
        rw [zpow_sub₀ (by norm_num), zpow_natCast]
        ring
    _ ≤ 2 * unitsOf magnitude / 10 ^ 17 := by gcongr
    _ < gap magnitude := by
        rw [div_lt_iff₀ (by norm_num)]
        have : (0 : ℚ) < gap magnitude := by exact_mod_cast gap_pos magnitude
        linarith

end CubeQuery.Double
