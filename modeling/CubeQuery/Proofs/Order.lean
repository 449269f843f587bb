import CubeQuery.Field
import CubeQuery.SortedMap

/-! Values and fields are in a strict order: what compares as equal is equal, and what comes before comes
before all that comes later. Integers and floats share one order because rounding an integer keeps the
order of integers. A map over such keys is what its entries make when they are inserted again. -/

namespace CubeQuery

namespace Double

/-! ### Rounding -/

theorem roundHalfEven_bounds (num den : Nat) :
    num / den ≤ roundHalfEven num den ∧ roundHalfEven num den ≤ num / den + 1 := by
  unfold roundHalfEven
  dsimp only
  split
  · omega
  · split <;> omega

theorem roundHalfEven_mono {num other : Nat} (den : Nat) (le : num ≤ other) :
    roundHalfEven num den ≤ roundHalfEven other den := by
  have bounds := roundHalfEven_bounds num den
  have otherBounds := roundHalfEven_bounds other den
  rcases Nat.lt_or_eq_of_le (Nat.div_le_div_right le (c := den)) with less | same
  · omega
  · have parts := Nat.div_add_mod num den
    have otherParts := Nat.div_add_mod other den
    rw [same] at parts
    unfold roundHalfEven
    dsimp only
    rw [same]
    split <;> split <;> (try split) <;> (try split) <;> omega

/-- How far a number of units is shifted to have a significand of 53 bits. -/
def shiftOf (num : Nat) : Nat := num.log2 - 52

/-- The magnitude of a number of units before it is cut off. -/
def rounded (num : Nat) : Nat :=
  shiftOf num * Nat.pow 2 52 + roundHalfEven num (Nat.pow 2 (shiftOf num))

theorem roundUnits_one (num : Nat) : roundUnits num 1 = min (rounded num) infinityMagnitude := by
  unfold roundUnits rounded shiftOf
  simp only [Nat.div_one, Nat.one_mul]

theorem shiftOf_mono {num other : Nat} (le : num ≤ other) : shiftOf num ≤ shiftOf other := by
  unfold shiftOf
  rcases Nat.eq_zero_or_pos num with rfl | positive
  · simp
  · have : num.log2 ≤ other.log2 :=
      (Nat.le_log2 (by omega)).mpr (Nat.le_trans (Nat.log2_self_le (by omega)) le)
    omega

/-- A significand has at most 53 bits, and all of them if it was shifted. -/
theorem quotient_bounds (num : Nat) : num / Nat.pow 2 (shiftOf num) < Nat.pow 2 53 ∧
    (0 < shiftOf num → Nat.pow 2 52 ≤ num / Nat.pow 2 (shiftOf num)) := by
  unfold shiftOf
  simp only [Nat.pow_eq]
  have upper : num < 2 ^ (num.log2 + 1) := Nat.lt_log2_self
  refine ⟨?_, fun shifted => ?_⟩
  · rw [Nat.div_lt_iff_lt_mul (Nat.two_pow_pos _), ← Nat.pow_add]
    exact Nat.lt_of_lt_of_le upper (Nat.pow_le_pow_right (by decide) (by omega))
  · rw [Nat.le_div_iff_mul_le (Nat.two_pow_pos _), ← Nat.pow_add]
    have positive : num ≠ 0 := by
      rintro rfl
      simp at shifted
    have : 52 + (num.log2 - 52) = num.log2 := by omega
    rw [this]
    exact Nat.log2_self_le positive

theorem rounded_mono {num other : Nat} (le : num ≤ other) : rounded num ≤ rounded other := by
  unfold rounded
  rcases Nat.lt_or_eq_of_le (shiftOf_mono le) with less | same
  · have below := (quotient_bounds num).1
    have above := (quotient_bounds other).2 (by omega)
    have roundedUp := (roundHalfEven_bounds num (Nat.pow 2 (shiftOf num))).2
    have roundedDown := (roundHalfEven_bounds other (Nat.pow 2 (shiftOf other))).1
    have bits : Nat.pow 2 52 = 4503599627370496 ∧ Nat.pow 2 53 = 9007199254740992 := ⟨rfl, rfl⟩
    rw [bits.1] at above ⊢
    rw [bits.2] at below
    omega
  · rw [same]
    exact Nat.add_le_add_left (roundHalfEven_mono _ le) _

/-! ### The order of doubles -/

theorem roundUnits_lt (num den : Nat) : roundUnits num den < Nat.pow 2 63 :=
  Nat.lt_of_le_of_lt (Nat.min_le_right _ _) (by decide)

theorem orderKey_ofMagnitude {magnitude : Nat} (negative : Bool) (small : magnitude < Nat.pow 2 63) :
    (ofMagnitude negative magnitude).orderKey =
      if negative then -(magnitude : Int) - 1 else magnitude := by
  have double : Nat.pow 2 63 + Nat.pow 2 63 = 2 ^ 64 := by decide
  have bits {word : Nat} (fits : word < 2 ^ 64) : (UInt64.ofNat word).toNat = word :=
    Nat.mod_eq_of_lt fits
  unfold orderKey isNegative Double.magnitude ofMagnitude
  generalize Nat.pow 2 63 = half at small double ⊢
  cases negative with
  | false =>
    simp only [Bool.false_eq_true, if_false]
    rw [bits (by omega), Nat.mod_eq_of_lt small, if_neg (by simpa using small)]
  | true =>
    simp only [if_true]
    rw [bits (by omega), Nat.add_mod_left, Nat.mod_eq_of_lt small, if_pos (by simp)]

theorem ofInt_mono {n m : Int} (le : n ≤ m) : (ofInt n).orderKey ≤ (ofInt m).orderKey := by
  unfold ofInt ofUnits
  rw [orderKey_ofMagnitude _ (roundUnits_lt _ _), orderKey_ofMagnitude _ (roundUnits_lt _ _),
    roundUnits_one, roundUnits_one]
  by_cases negative : n < 0 <;> by_cases other : m < 0
  · have := rounded_mono (Nat.mul_le_mul_right unitsPerOne (show m.natAbs ≤ n.natAbs by omega))
    simp only [negative, other, decide_true, if_true]
    omega
  · simp only [negative, other, decide_true, decide_false, if_true, Bool.false_eq_true, if_false]
    omega
  · omega
  · have := rounded_mono (Nat.mul_le_mul_right unitsPerOne (show n.natAbs ≤ m.natAbs by omega))
    simp only [negative, other, decide_false, Bool.false_eq_true, if_false]
    omega

theorem eq_of_orderKey_eq {x y : Double} (same : x.orderKey = y.orderKey) : x = y := by
  obtain ⟨bits⟩ := x
  obtain ⟨others⟩ := y
  have small := bits.toNat_lt
  have otherSmall := others.toNat_lt
  have double : Nat.pow 2 63 + Nat.pow 2 63 = 2 ^ 64 := by decide
  refine congrArg Double.mk (UInt64.toNat_inj.mp ?_)
  unfold orderKey isNegative Double.magnitude at same
  dsimp only at same
  generalize Nat.pow 2 63 = half at same double
  have low : bits.toNat < half → bits.toNat % half = bits.toNat := Nat.mod_eq_of_lt
  have high : half ≤ bits.toNat → bits.toNat % half = bits.toNat - half := fun le => by
    rw [Nat.mod_eq_sub_mod le, Nat.mod_eq_of_lt (by omega)]
  have otherLow : others.toNat < half → others.toNat % half = others.toNat := Nat.mod_eq_of_lt
  have otherHigh : half ≤ others.toNat → others.toNat % half = others.toNat - half := fun le => by
    rw [Nat.mod_eq_sub_mod le, Nat.mod_eq_of_lt (by omega)]
  simp only [decide_eq_true_eq] at same
  split at same <;> split at same <;> omega

theorem eq_of_magnitude_eq {x y : Double} (sign : x.isNegative = y.isNegative)
    (magnitude : x.magnitude = y.magnitude) : x = y := by
  refine eq_of_orderKey_eq ?_
  unfold orderKey
  rw [sign, magnitude]

theorem compare_eq_lt {x y : Double} : compare x y = .lt ↔ x.orderKey < y.orderKey :=
  Int.compare_eq_lt

theorem eq_of_compare_eq {x y : Double} (same : compare x y = .eq) : x = y :=
  eq_of_orderKey_eq (Int.compare_eq_eq.mp same)

end Double

namespace Value

/-! ### Values -/

mutual

theorem eq_of_compare_eq {a b : Value} (same : Value.compare a b = .eq) : a = b := by
  cases a <;> cases b <;> simp only [Value.compare, rank] at same
  case null.null => rfl
  case bool.bool => exact congrArg Value.bool (Std.LawfulEqCmp.eq_of_compare same)
  case int.int => exact congrArg Value.int (Int64.toInt_inj.mp (Int.compare_eq_eq.mp same))
  case float.float => exact congrArg Value.float (Double.eq_of_compare_eq same)
  case str.str => exact congrArg Value.str (Std.LawfulEqCmp.eq_of_compare same)
  case list.list as bs => exact congrArg Value.list (items_eq_of_compare_eq same)
  case int.float => cases (Ordering.then_eq_eq.mp same).2
  case float.int => cases (Ordering.then_eq_eq.mp same).2
  all_goals cases same

theorem items_eq_of_compare_eq {as bs : List Value} (same : Value.compareItems as bs = .eq) : as = bs := by
  cases as <;> cases bs <;> simp only [Value.compareItems] at same
  case nil.nil => rfl
  case cons.cons a as b bs =>
    obtain ⟨first, rest⟩ := Ordering.then_eq_eq.mp same
    rw [eq_of_compare_eq first, items_eq_of_compare_eq rest]
  all_goals cases same

end

theorem isTotal_iff {value : Value} : value.isTotal = true ↔ value = .total := by
  unfold isTotal total
  split <;> simp_all

/-- An integer comes before the floats from the one that it is rounded to. -/
theorem then_lt_eq_lt {x y : Double} : (compare x y).then .lt = .lt ↔ x.orderKey ≤ y.orderKey := by
  show (compare x.orderKey y.orderKey).then .lt = .lt ↔ _
  rw [Ordering.then_eq_lt, Int.compare_eq_lt, Int.compare_eq_eq, Int.le_iff_lt_or_eq]
  simp

theorem then_gt_eq_lt {x y : Double} : (compare x y).then .gt = .lt ↔ x.orderKey < y.orderKey := by
  show (compare x.orderKey y.orderKey).then .gt = .lt ↔ _
  rw [Ordering.then_eq_lt, Int.compare_eq_lt]
  simp

theorem toInt_lt_of_ofInt_lt {n m : Int} (less : (Double.ofInt n).orderKey < (Double.ofInt m).orderKey) :
    n < m :=
  Int.not_le.mp fun ge => absurd (Double.ofInt_mono ge) (Int.not_le.mpr less)

mutual

theorem compare_lt_trans {a b c : Value} (less : Value.compare a b = .lt)
    (other : Value.compare b c = .lt) : Value.compare a c = .lt := by
  cases a <;> cases b <;> cases c <;> simp only [Value.compare, rank] at less other ⊢
  case bool.bool.bool => exact Std.TransCmp.lt_trans less other
  case str.str.str => exact Std.TransCmp.lt_trans less other
  case list.list.list as bs cs => exact items_lt_trans less other
  -- Numbers: an integer stands just before the float that it is rounded to.
  case int.int.int => exact Std.TransCmp.lt_trans less other
  case int.int.float =>
    rw [then_lt_eq_lt] at other ⊢
    exact Int.le_trans (Double.ofInt_mono (Int.le_of_lt (Int.compare_eq_lt.mp less))) other
  case int.float.int =>
    rw [then_lt_eq_lt] at less
    rw [then_gt_eq_lt] at other
    exact Int.compare_eq_lt.mpr (toInt_lt_of_ofInt_lt (Int.lt_of_le_of_lt less other))
  case int.float.float =>
    rw [then_lt_eq_lt] at less ⊢
    exact Int.le_trans less (Int.le_of_lt (Double.compare_eq_lt.mp other))
  case float.int.int =>
    rw [then_gt_eq_lt] at less ⊢
    exact Int.lt_of_lt_of_le less (Double.ofInt_mono (Int.le_of_lt (Int.compare_eq_lt.mp other)))
  case float.int.float =>
    rw [then_gt_eq_lt] at less
    rw [then_lt_eq_lt] at other
    exact Double.compare_eq_lt.mpr (Int.lt_of_lt_of_le less other)
  case float.float.int =>
    rw [then_gt_eq_lt] at other ⊢
    exact Int.lt_trans (Double.compare_eq_lt.mp less) other
  case float.float.float =>
    exact Double.compare_eq_lt.mpr
      (Int.lt_trans (Double.compare_eq_lt.mp less) (Double.compare_eq_lt.mp other))
  -- Other kinds are in the order of their ranks.
  all_goals first | rfl | exact absurd less (by decide) | exact absurd other (by decide)

theorem items_lt_trans {as bs cs : List Value} (less : Value.compareItems as bs = .lt)
    (other : Value.compareItems bs cs = .lt) : Value.compareItems as cs = .lt := by
  cases as <;> cases bs <;> cases cs <;> simp only [Value.compareItems, Ordering.then_eq_lt] at less other ⊢
  case cons.cons.cons a as b bs c cs =>
    rcases less with less | ⟨same, less⟩ <;> rcases other with other | ⟨otherSame, other⟩
    · exact .inl (compare_lt_trans less other)
    · exact .inl (eq_of_compare_eq otherSame ▸ less)
    · exact .inl (eq_of_compare_eq same ▸ other)
    · exact .inr ⟨eq_of_compare_eq same ▸ otherSame, items_lt_trans less other⟩
  all_goals first | rfl | exact absurd less (by decide) | exact absurd other (by decide)

end

/-! ### Ascending lists -/

theorem ascending_total (a b : Value) : (compare a b != .gt || compare b a != .gt) = true := by
  have swapped : compare a b = (compare b a).swap := Std.OrientedCmp.eq_swap
  rw [swapped]
  cases compare b a <;> rfl

theorem ascending_antisymm {a b : Value} (before : (compare a b != .gt) = true)
    (after : (compare b a != .gt) = true) : a = b := by
  have swapped : compare b a = (compare a b).swap := Std.OrientedCmp.eq_swap
  rw [swapped] at after
  cases order : compare a b with
  | eq => exact eq_of_compare_eq order
  | lt => simp [order] at after
  | gt => simp [order] at before

theorem ascending_trans (a b c : Value) (first : (compare a b != .gt) = true)
    (second : (compare b c != .gt) = true) : (compare a c != .gt) = true := by
  cases order : compare a b with
  | gt => simp [order] at first
  | eq => rwa [eq_of_compare_eq order]
  | lt =>
    cases next : compare b c with
    | gt => simp [next] at second
    | eq => rwa [← eq_of_compare_eq next]
    | lt =>
      have less : compare a c = .lt := compare_lt_trans order next
      rw [less]
      rfl

end Value

namespace Field

/-! ### Fields -/

theorem compareLabels_lt_trans {a b c : Option String} (less : compareLabels a b = .lt)
    (other : compareLabels b c = .lt) : compareLabels a c = .lt := by
  cases a <;> cases b <;> cases c <;> simp only [compareLabels] at less other ⊢
  case some.some.some => exact Std.TransCmp.lt_trans less other
  all_goals first | rfl | exact absurd less (by decide) | exact absurd other (by decide)

theorem compare_lt_trans {a b c : Field} (less : compare a b = .lt) (other : compare b c = .lt) :
    compare a c = .lt := by
  show Field.compare a c = .lt
  replace less : Field.compare a b = .lt := less
  replace other : Field.compare b c = .lt := other
  cases a <;> cases b <;> cases c <;> simp only [Field.compare, rank] at less other ⊢
  case table.table.table =>
    rw [Ordering.then_eq_lt] at less other ⊢
    rcases less with less | ⟨same, less⟩ <;> rcases other with other | ⟨otherSame, other⟩
    · exact .inl (Std.TransCmp.lt_trans less other)
    · exact .inl (Std.LawfulEqCmp.eq_of_compare otherSame ▸ less)
    · exact .inl (Std.LawfulEqCmp.eq_of_compare same ▸ other)
    · exact .inr ⟨Std.LawfulEqCmp.eq_of_compare same ▸ otherSame, compareLabels_lt_trans less other⟩
  case constant.constant.constant => exact Value.compare_lt_trans less other
  case function.function.function => exact Std.TransCmp.lt_trans less other
  case labelled.labelled.labelled => exact Std.TransCmp.lt_trans less other
  all_goals first | rfl | exact absurd less (by decide) | exact absurd other (by decide)

end Field

namespace SortedMap

/-! ### Maps -/

variable {κ ν : Type} [Ord κ]

theorem ext_entries {map other : SortedMap κ ν} (same : map.entries = other.entries) : map = other := by
  cases map
  cases other
  cases same
  rfl

theorem pairwise_of_ascending
    (trans : ∀ {a b c : κ}, compare a b = .lt → compare b c = .lt → compare a c = .lt)
    {entries : List (κ × ν)} (ascending : Ascending entries) :
    entries.Pairwise fun first second => compare first.1 second.1 = .lt := by
  induction entries with
  | nil => exact .nil
  | cons first rest ih =>
    cases rest with
    | nil => exact List.pairwise_singleton _ _
    | cons second others =>
      obtain ⟨less, later⟩ := ascending
      have pairwise := ih later
      refine List.pairwise_cons.mpr ⟨fun entry listed => ?_, pairwise⟩
      rcases List.mem_cons.mp listed with rfl | listed
      · exact less
      · exact trans less (List.rel_of_pairwise_cons pairwise listed)

theorem insertEntry_last {key : κ} {value : ν} {entries : List (κ × ν)}
    (greater : ∀ entry ∈ entries, compare key entry.1 = .gt) :
    insertEntry key value entries = entries ++ [(key, value)] := by
  induction entries with
  | nil => rfl
  | cons first rest ih =>
    obtain ⟨here, later⟩ := List.forall_mem_cons.mp greater
    unfold insertEntry
    simp only [here]
    rw [ih later, List.cons_append]

theorem foldl_insert [Std.OrientedOrd κ] {entries : List (κ × ν)} (map : SortedMap κ ν)
    (pairwise : (map.entries ++ entries).Pairwise fun first second => compare first.1 second.1 = .lt) :
    (entries.foldl (fun map entry => map.insert entry.1 entry.2) map).entries = map.entries ++ entries := by
  induction entries generalizing map with
  | nil => simp
  | cons entry rest ih =>
    have greater : ∀ other ∈ map.entries, compare entry.1 other.1 = .gt := fun other listed =>
      Std.OrientedCmp.gt_of_lt ((List.pairwise_append.mp pairwise).2.2 other listed entry List.mem_cons_self)
    have inserted : (map.insert entry.1 entry.2).entries = map.entries ++ [entry] := insertEntry_last greater
    rw [List.foldl_cons, ih _ (by rwa [inserted, List.append_assoc]), inserted, List.append_assoc]
    rfl

/-- A map is what its entries make. -/
theorem ofList_entries [Std.OrientedOrd κ]
    (trans : ∀ {a b c : κ}, compare a b = .lt → compare b c = .lt → compare a c = .lt)
    (map : SortedMap κ ν) : ofList map.entries = map :=
  ext_entries (foldl_insert empty (pairwise_of_ascending trans map.ascending))

end SortedMap

end CubeQuery
