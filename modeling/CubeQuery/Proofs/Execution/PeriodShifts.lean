import Mathlib.Algebra.Group.Nat.Defs
import Mathlib.Data.List.Basic
import CubeQuery.Execution.Shifter
import CubeQuery.Proofs.Checked

/-! Points that are moved along a calendar. Counted from the year zero on, parts of years are moved by exactly as
many places as a comparison asks for, and there is no point where a number on the way does not fit a word. -/

namespace CubeQuery

/-! ### Parts of a year -/

namespace Period

theorem perYear_of_part {period : Period} (parts : period.partField?.isSome) :
    period.perYear = 2 ∨ period.perYear = 4 ∨ period.perYear = 12 := by
  cases period with
  | year column => cases parts
  | semester column part => exact .inl rfl
  | quarter column part => exact .inr (.inl rfl)
  | month column part => exact .inr (.inr rfl)

end Period

namespace Shifter

/-! ### Checked steps -/

theorem checkedSum_eq (a b : Int) : checkedSum a b = if FitsWord (a + b) then some (a + b) else none :=
  map_toInt_checkedInt64? _

theorem checkedProduct_eq (a b : Int) : checkedProduct a b = if FitsWord (a * b) then some (a * b) else none :=
  map_toInt_checkedInt64? _

/-- The numbers that are computed one after the other, up to the place of the shifted part. -/
def partSteps (perYear : Nat) (year part yearShift partShift : Int64) : List Int :=
  let years := year.toInt + yearShift.toInt
  let place := part.toInt - 1
  [years, years * perYear, place, years * perYear + place, years * perYear + place + partShift.toInt]

/-- The place of the shifted part, counted from the year zero on. -/
def shiftedPlace (perYear : Nat) (year part yearShift partShift : Int64) : Int :=
  (year.toInt + yearShift.toInt) * perYear + (part.toInt - 1) + partShift.toInt

theorem shiftedPart_eq (perYear : Nat) (year part yearShift partShift : Int64) :
    shiftedPart perYear year part yearShift partShift =
      if ∀ n ∈ partSteps perYear year part yearShift partShift, FitsWord n
        then some (shiftedPlace perYear year part yearShift partShift) else none := by
  unfold shiftedPart shiftedYear partSteps shiftedPlace
  have place : checkedSum part.toInt (-1) = if FitsWord (part.toInt - 1) then some (part.toInt - 1) else none :=
    checkedSum_eq _ _
  simp only [place, checkedSum_eq, checkedProduct_eq, List.forall_mem_cons, Option.bind_eq_bind]
  by_cases years : FitsWord (year.toInt + yearShift.toInt)
  case neg => simp [years]
  by_cases parts : FitsWord ((year.toInt + yearShift.toInt) * perYear)
  case neg => simp [years, parts]
  by_cases before : FitsWord (part.toInt - 1)
  case neg => simp [years, parts, before]
  by_cases unshifted : FitsWord ((year.toInt + yearShift.toInt) * perYear + (part.toInt - 1))
  case neg => simp [years, parts, before, unshifted]
  simp [years, parts, before, unshifted]

theorem shiftedPart_eq_some {perYear : Nat} {year part yearShift partShift : Int64} {place : Int} :
    shiftedPart perYear year part yearShift partShift = some place ↔
      (∀ n ∈ partSteps perYear year part yearShift partShift, FitsWord n) ∧
        shiftedPlace perYear year part yearShift partShift = place := by
  rw [shiftedPart_eq, Option.ite_none_right_eq_some, Option.some.injEq]

/-! ### Cells -/

theorem cell_eq {point : List Value} {place : Nat} {value : Value} (found : point[place]? = some value) :
    cell point place = value := by
  rw [cell, found, Option.getD_some]

theorem shift_year {point : List Value} {year : Nat} {yearCell : Value} {y : Int64}
    (found : point[year]? = some yearCell) (read : integer? yearCell = some y) (perYear : Nat) (a b : Int64) :
    (Shifter.period year none perYear a b).shift point =
      if FitsWord (y.toInt + a.toInt) then some (point.set year (writtenAs yearCell (y.toInt + a.toInt)))
        else none := by
  simp only [shift, periodPoint, cell_eq found, read, Option.bind_eq_bind, Option.bind_some, shiftedYear,
    checkedSum_eq]
  split <;> rfl

theorem shift_part {point : List Value} {year part : Nat} {yearCell partCell : Value} {y s : Int64}
    (yearFound : point[year]? = some yearCell) (yearRead : integer? yearCell = some y)
    (partFound : point[part]? = some partCell) (partRead : integer? partCell = some s) (perYear : Nat)
    (a b : Int64) :
    (Shifter.period year (some part) perYear a b).shift point =
      (shiftedPart perYear y s a b).map fun place =>
        (point.set year (writtenAs yearCell (place / perYear))).set part
          (writtenAs partCell (place % perYear + 1)) := by
  simp only [shift, periodPoint, cell_eq yearFound, cell_eq partFound, yearRead, partRead, Option.bind_eq_bind,
    Option.bind_some]
  exact (Option.map_eq_bind ..).symm

theorem shift_part_isSome {point : List Value} {year part : Nat} {yearCell partCell : Value} {y s : Int64}
    (yearFound : point[year]? = some yearCell) (yearRead : integer? yearCell = some y)
    (partFound : point[part]? = some partCell) (partRead : integer? partCell = some s) (perYear : Nat)
    (a b : Int64) :
    ((Shifter.period year (some part) perYear a b).shift point).isSome ↔
      ∀ n ∈ partSteps perYear y s a b, FitsWord n := by
  rw [shift_part yearFound yearRead partFound partRead, Option.isSome_map, shiftedPart_eq, Option.isSome_ite]

/-! ### Exactness -/

/-- What is asked of moving a year by so many years. -/
structure MovesYears (perYear year : Nat) (point : List Value) (y a b : Int64) : Prop where
  exact : ∀ shifted, (Shifter.period year none perYear a b).shift point = some shifted →
    ∃ y' : Int64, shifted[year]? = some (.int y') ∧
      (∀ place, place ≠ year → shifted[place]? = point[place]?) ∧ y'.toInt = y.toInt + a.toInt
  returns : ((Shifter.period year none perYear a b).shift point).isSome ↔ FitsWord (y.toInt + a.toInt)

/-- What is asked of moving a part of a year by so many years and so many parts. -/
structure MovesExactly (perYear year part : Nat) (point : List Value) (y s a b : Int64) : Prop where
  exact : ∀ shifted, (Shifter.period year (some part) perYear a b).shift point = some shifted →
    ∃ y' s' : Int64, shifted[year]? = some (.int y') ∧ shifted[part]? = some (.int s') ∧
      (∀ place, place ≠ year → place ≠ part → shifted[place]? = point[place]?) ∧
      1 ≤ s'.toInt ∧ s'.toInt ≤ perYear ∧
      perYear * y'.toInt + s'.toInt - 1 = perYear * (y.toInt + a.toInt) + s.toInt - 1 + b.toInt
  returns : ((Shifter.period year (some part) perYear a b).shift point).isSome ↔
    ∀ n ∈ partSteps perYear y s a b, FitsWord n
  inRange : y.toInt.natAbs ≤ 2 ^ 57 → a.toInt.natAbs ≤ 2 ^ 57 → s.toInt.natAbs ≤ 2 ^ 58 →
    b.toInt.natAbs ≤ 2 ^ 58 → ((Shifter.period year (some part) perYear a b).shift point).isSome
  back : FitsWord (-a.toInt) → FitsWord (-b.toInt) → 1 ≤ s.toInt → s.toInt ≤ perYear →
    ∀ shifted, (Shifter.period year (some part) perYear a b).shift point = some shifted →
      ∀ returned, (Shifter.period year (some part) perYear (-a) (-b)).shift shifted = some returned →
        returned = point

theorem movesYears {point : List Value} {year : Nat} {y : Int64} (yearCell : point[year]? = some (.int y))
    (perYear : Nat) (a b : Int64) : MovesYears perYear year point y a b := by
  have moved := shift_year yearCell rfl perYear a b
  refine ⟨fun shifted result => ?_, ?_⟩
  · rw [moved, Option.ite_none_right_eq_some] at result
    obtain ⟨fits, result⟩ := result
    obtain rfl := Option.some.inj result
    refine ⟨.ofInt (y.toInt + a.toInt), ?_, fun place other => List.getElem?_set_ne other.symm, toInt_ofInt fits⟩
    rw [List.getElem?_set_self (List.getElem?_eq_some_iff.mp yearCell).1]
    rfl
  · rw [moved, Option.isSome_ite]

section

variable {period : Period} (parts : period.partField?.isSome) {point : List Value} {year part : Nat}
  (distinct : year ≠ part) {y s : Int64} (yearCell : point[year]? = some (.int y))
  (partCell : point[part]? = some (.int s)) (a b : Int64)

include parts

/-- The year and the part that a place falls into are words where the place is one. -/
theorem fitsWord_of_place {place : Int} (fits : FitsWord place) :
    FitsWord (place / period.perYear) ∧ FitsWord (place % period.perYear + 1) := by
  rw [fitsWord_iff] at fits
  rw [fitsWord_iff, fitsWord_iff]
  rcases Period.perYear_of_part parts with perYear | perYear | perYear <;> rw [perYear] <;> omega

theorem emod_bounds (place : Int) :
    1 ≤ place % period.perYear + 1 ∧ place % period.perYear + 1 ≤ period.perYear := by
  rcases Period.perYear_of_part parts with perYear | perYear | perYear <;> rw [perYear] <;> omega

/-- A place counted from the year zero on is in one part of one year only. -/
theorem place_unique {y₁ y₂ s₁ s₂ : Int} (first : 1 ≤ s₁ ∧ s₁ ≤ period.perYear)
    (second : 1 ≤ s₂ ∧ s₂ ≤ period.perYear) (same : period.perYear * y₁ + s₁ - 1 = period.perYear * y₂ + s₂ - 1) :
    y₁ = y₂ ∧ s₁ = s₂ := by
  rcases Period.perYear_of_part parts with perYear | perYear | perYear <;> rw [perYear] at first second same <;>
    omega

theorem place_parts (y : Int) {s : Int} (low : 1 ≤ s) (high : s ≤ period.perYear) :
    (y * period.perYear + (s - 1)) / period.perYear = y ∧
      (y * period.perYear + (s - 1)) % period.perYear + 1 = s := by
  rcases Period.perYear_of_part parts with perYear | perYear | perYear <;> rw [perYear] at high ⊢ <;> omega

theorem fitsWord_partSteps (years : y.toInt.natAbs ≤ 2 ^ 57) (shift : a.toInt.natAbs ≤ 2 ^ 57)
    (place : s.toInt.natAbs ≤ 2 ^ 58) (move : b.toInt.natAbs ≤ 2 ^ 58) :
    ∀ n ∈ partSteps period.perYear y s a b, FitsWord n := by
  simp only [partSteps, List.forall_mem_cons, List.not_mem_nil, false_implies, implies_true, and_true,
    fitsWord_iff]
  rcases Period.perYear_of_part parts with perYear | perYear | perYear <;> rw [perYear] <;> omega

include distinct yearCell partCell

theorem shift_part_exact {shifted : List Value}
    (moved : (Shifter.period year (some part) period.perYear a b).shift point = some shifted) :
    ∃ y' s' : Int64, shifted[year]? = some (.int y') ∧ shifted[part]? = some (.int s') ∧
      (∀ place, place ≠ year → place ≠ part → shifted[place]? = point[place]?) ∧
      1 ≤ s'.toInt ∧ s'.toInt ≤ period.perYear ∧
      period.perYear * y'.toInt + s'.toInt - 1 = period.perYear * (y.toInt + a.toInt) + s.toInt - 1 + b.toInt := by
  rw [shift_part yearCell rfl partCell rfl, Option.map_eq_some_iff] at moved
  obtain ⟨place, counted, rfl⟩ := moved
  obtain ⟨fits, placed⟩ := shiftedPart_eq_some.mp counted
  have placeFits : FitsWord place := placed ▸ fits _ (List.mem_of_getElem? (i := 4) rfl)
  obtain ⟨yearFits, partFits⟩ := fitsWord_of_place parts placeFits
  have yearLt : year < point.length := (List.getElem?_eq_some_iff.mp yearCell).1
  have partLt : part < point.length := (List.getElem?_eq_some_iff.mp partCell).1
  refine ⟨.ofInt (place / period.perYear), .ofInt (place % period.perYear + 1), ?_, ?_, ?_, ?_, ?_, ?_⟩
  · rw [List.getElem?_set_ne distinct.symm, List.getElem?_set_self yearLt]
    rfl
  · rw [List.getElem?_set_self (by rwa [List.length_set])]
    rfl
  · intro other notYear notPart
    rw [List.getElem?_set_ne notPart.symm, List.getElem?_set_ne notYear.symm]
  · rw [toInt_ofInt partFits]
    exact (emod_bounds parts place).1
  · rw [toInt_ofInt partFits]
    exact (emod_bounds parts place).2
  · rw [toInt_ofInt yearFits, toInt_ofInt partFits]
    have divided := Int.mul_ediv_add_emod place period.perYear
    unfold shiftedPlace at placed
    rw [Int.mul_comm] at placed
    omega

theorem shift_part_back (yearBack : FitsWord (-a.toInt)) (partBack : FitsWord (-b.toInt)) (inYear : 1 ≤ s.toInt)
    (within : s.toInt ≤ period.perYear) {shifted returned : List Value}
    (moved : (Shifter.period year (some part) period.perYear a b).shift point = some shifted)
    (back : (Shifter.period year (some part) period.perYear (-a) (-b)).shift shifted = some returned) :
    returned = point := by
  obtain ⟨y₁, s₁, yearShifted, partShifted, others, -, -, place⟩ :=
    shift_part_exact parts distinct yearCell partCell a b moved
  obtain ⟨y₂, s₂, yearReturned, partReturned, othersBack, low, high, placeBack⟩ :=
    shift_part_exact parts distinct yearShifted partShifted (-a) (-b) back
  rw [toInt_neg yearBack, toInt_neg partBack, Int.mul_add] at placeBack
  rw [Int.mul_add] at place
  obtain ⟨sameYear, samePart⟩ : y₂.toInt = y.toInt ∧ s₂.toInt = s.toInt :=
    place_unique parts ⟨low, high⟩ ⟨inYear, within⟩ (by rw [Int.mul_neg] at placeBack; omega)
  refine List.ext_getElem? fun place => ?_
  by_cases atYear : place = year
  · rw [atYear, yearReturned, yearCell, Int64.toInt_inj.mp sameYear]
  by_cases atPart : place = part
  · rw [atPart, partReturned, partCell, Int64.toInt_inj.mp samePart]
  rw [othersBack place atYear atPart, others place atYear atPart]

end

/-- Years are moved by exactly so many years, and parts of years by exactly so many parts. -/
theorem period_moves_exactly (period : Period) (year : Nat) (point : List Value) (y : Int64)
    (yearCell : point[year]? = some (.int y)) (a b : Int64) :
    (period.partField? = none → MovesYears period.perYear year point y a b) ∧
    (period.partField?.isSome → ∀ (part : Nat) (s : Int64), year ≠ part → point[part]? = some (.int s) →
      MovesExactly period.perYear year part point y s a b) := by
  refine ⟨fun _ => movesYears yearCell _ a b, fun parts part s distinct partCell => ?_⟩
  have returns := shift_part_isSome yearCell rfl partCell rfl period.perYear a b
  exact {
    exact := fun shifted moved => shift_part_exact parts distinct yearCell partCell a b moved
    returns := returns
    inRange := fun years shift place move => returns.mpr (fitsWord_partSteps parts a b years shift place move)
    back := fun yearBack partBack low high shifted moved returned back =>
      shift_part_back parts distinct yearCell partCell a b yearBack partBack low high moved back }

/-- The quarter before the first one of a year is the last one of the year before. -/
theorem first_quarter_moves_back :
    (Shifter.period 0 (some 1) 4 0 (-1)).shift [.int 2023, .int 1] = some [.int 2022, .int 4] ∧
      MovesExactly 4 0 1 [.int 2023, .int 1] 2023 1 0 (-1) ∧ MovesYears 1 0 [.int 2023] 2023 (-1) 0 :=
  ⟨by decide,
    (period_moves_exactly (.quarter (.ofName "year") (.ofName "quarter")) 0 [.int 2023, .int 1] 2023 rfl 0 (-1)).2
      rfl 1 1 (by decide) rfl,
    (period_moves_exactly (.year (.ofName "year")) 0 [.int 2023] 2023 rfl (-1) 0).1 rfl⟩

end Shifter

end CubeQuery
