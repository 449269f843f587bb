import CubeQuery.Proofs.Double.Whole
import CubeQuery.Proofs.Execution.Comparisons
import CubeQuery.Proofs.Execution.PeriodShifts
import CubeQuery.Proofs.Text.Integer

/-! Periods that are compared without a shift. The integers of a point's period are read and written again, which
keeps what they are read as. A cell that is written as it stands is kept as it is, and where all of the period's
cells are such cells a row is compared with the row of its own point, unless counting its parts from the year zero
on leaves the words. -/

namespace CubeQuery

open Steps

/-! ### Cells -/

namespace Value

/-- A cell that holds an integer as a program writes it. -/
inductive IsPlain : Value → Prop where
  | int (n : Int64) : IsPlain (.int n)
  | float {x : Double} {n : Int} (whole : x.toInt? = some n) (signed : x ≠ .negativeZero)
      (low : smallestInt64 ≤ n) (high : n ≤ largestInt64 + 1) : IsPlain (.float x)
  | text {text : String} (plain : Text.IsPlain text.toList) : IsPlain (.str text)

end Value

namespace Shifter

open Value

theorem integer?_text {text : String} {n : Int64} (read : integer? (.str text) = some n) :
    Text.integer? (Text.trim text.toList) = some n.toInt := by
  obtain ⟨m, readAs, checked⟩ := Option.bind_eq_some_iff.mp read
  rw [readAs, checkedInt64?_eq_some.mp checked]

theorem writtenAs_of_isPlain {value : Value} (plain : value.IsPlain) {n : Int64}
    (read : integer? value = some n) : writtenAs value n.toInt = value := by
  cases plain with
  | int m =>
    obtain rfl := Option.some.inj read
    exact congrArg Value.int (Int64.ofInt_toInt m)
  | @float x m whole signed low high =>
    change x.toInt?.map clampedInt64 = some n at read
    rw [whole] at read
    obtain rfl := Option.some.inj read
    exact congrArg Value.float (Double.ofInt_clampedInt64 whole signed low high)
  | @text text plain =>
    have readAs := integer?_text read
    rw [plain.trim_eq] at readAs
    exact congrArg Value.str (String.toList_injective (plain.toString_eq readAs))

/-- A cell is kept when its integer is written again just if it is written as it stands. -/
theorem writtenAs_eq_iff {value : Value} {n : Int64} (read : integer? value = some n) :
    writtenAs value n.toInt = value ↔ value.IsPlain := by
  refine ⟨fun kept => ?_, fun plain => writtenAs_of_isPlain plain read⟩
  cases value with
  | int m => exact .int m
  | str text =>
    rw [← Value.str.inj kept]
    exact .text (Text.isPlain_toString n.toInt)
  | float x =>
    obtain ⟨m, whole, rfl⟩ := Option.map_eq_some_iff.mp (show x.toInt?.map clampedInt64 = some n from read)
    obtain ⟨signed, low, high⟩ := Double.bounds_of_ofInt_clampedInt64 whole (Value.float.inj kept)
    exact .float whole signed low high
  | bool | null | list => cases kept

/-- An integer is read from what it is written as instead of a cell that it was read from. -/
theorem integer?_writtenAs {value : Value} {n : Int64} (read : integer? value = some n) :
    integer? (writtenAs value n.toInt) = some n := by
  cases value with
  | str text =>
    have readAs := Text.integer?_toString n.toInt
    change Text.int64? (Text.trim (toString n.toInt).toList) = some n
    rw [(Text.isPlain_toString n.toInt).trim_eq, Text.int64?, readAs]
    exact checkedInt64?_toInt n
  | float x =>
    obtain ⟨m, whole, clamped⟩ := Option.map_eq_some_iff.mp (show x.toInt?.map clampedInt64 = some n from read)
    change (Double.ofInt n.toInt).toInt?.map clampedInt64 = some n
    rw [← clamped]
    exact Double.toInt?_ofInt_clampedInt64 whole
  | int | bool =>
    change some (Int64.ofInt n.toInt) = some n
    rw [Int64.ofInt_toInt]
  | null | list => cases read

/-! ### Points -/

/-- The cell with its integer, if it holds one, written again. -/
def rewrite (value : Value) : Value :=
  match integer? value with
  | some n => writtenAs value n.toInt
  | none => value

theorem rewrite_of_read {value : Value} {n : Int64} (read : integer? value = some n) :
    rewrite value = writtenAs value n.toInt := by
  unfold rewrite
  rw [read]

/-- The point with the cells at the given places rewritten. -/
def rewritten (places : List Nat) (point : List Value) : List Value :=
  point.mapIdx fun place value => if place ∈ places then rewrite value else value

/-- The cells of a period hold a year and, if it has parts, one of the parts. -/
structure Readable (perYear year : Nat) (part : Option Nat) (point : List Value) : Prop where
  year : ∃ y, integer? (cell point year) = some y
  part : ∀ place ∈ part, ∃ s, integer? (cell point place) = some s ∧ 1 ≤ s.toInt ∧ s.toInt ≤ perYear

/-- The parts of years, counted from the year zero on, are words up to the one in a point. -/
def Countable (perYear year : Nat) (part : Option Nat) (point : List Value) : Prop :=
  ∀ place ∈ part, ∀ y s, integer? (cell point year) = some y → integer? (cell point place) = some s →
    FitsWord (y.toInt * perYear) ∧ FitsWord (y.toInt * perYear + (s.toInt - 1))

theorem getElem?_of_read {point : List Value} {place : Nat} {n : Int64}
    (read : integer? (cell point place) = some n) : point[place]? = some (cell point place) := by
  cases found : point[place]? with
  | none =>
    rw [cell, found] at read
    cases read
  | some value => rw [cell_eq found]

theorem getElem?_rewritten (places : List Nat) (point : List Value) (place : Nat) :
    (rewritten places point)[place]? =
      if place ∈ places then point[place]?.map rewrite else point[place]? := by
  rw [rewritten, List.getElem?_mapIdx]
  split
  next => rfl
  next => exact Option.map_id'

/-- An integer that is written again rewrites its place. -/
theorem set_rewritten (places : List Nat) {point : List Value} {place : Nat} {n : Int64}
    (read : integer? (cell point place) = some n) :
    (rewritten places point).set place (writtenAs (cell point place) n.toInt) =
      rewritten (places ++ [place]) point := by
  have found := getElem?_of_read read
  have length : (rewritten places point).length = point.length := List.length_mapIdx
  refine List.ext_getElem? fun other => ?_
  rw [List.getElem?_set, getElem?_rewritten, getElem?_rewritten]
  by_cases same : place = other
  · subst same
    rw [if_pos rfl, if_pos (length ▸ (List.getElem?_eq_some_iff.mp found).1), if_pos (by simp), found,
      Option.map_some, rewrite_of_read read]
  · rw [if_neg same]
    simp only [List.mem_append, List.mem_singleton, Ne.symm same, or_false]

theorem rewritten_nil (point : List Value) : rewritten [] point = point := by
  refine List.ext_getElem? fun place => ?_
  rw [getElem?_rewritten, if_neg List.not_mem_nil]

theorem countable_iff {perYear year part : Nat} {point : List Value} {y s : Int64}
    (yearRead : integer? (cell point year) = some y) (partRead : integer? (cell point part) = some s) :
    Countable perYear year (some part) point ↔
      FitsWord (y.toInt * perYear) ∧ FitsWord (y.toInt * perYear + (s.toInt - 1)) := by
  refine ⟨fun countable => countable part rfl y s yearRead partRead, ?_⟩
  rintro fits _ ⟨⟩ y' s' yearRead' partRead'
  rw [yearRead] at yearRead'
  rw [partRead] at partRead'
  obtain rfl := Option.some.inj yearRead'
  obtain rfl := Option.some.inj partRead'
  exact fits

theorem partSteps_unshifted (perYear : Nat) (y : Int64) {s : Int64} (low : 1 ≤ s.toInt) :
    (∀ n ∈ partSteps perYear y s 0 0, FitsWord n) ↔
      FitsWord (y.toInt * perYear) ∧ FitsWord (y.toInt * perYear + (s.toInt - 1)) := by
  have year := fitsWord_toInt y
  have part : FitsWord (s.toInt - 1) := by
    have fits := fitsWord_toInt s
    rw [fitsWord_iff] at fits ⊢
    omega
  simp only [partSteps, List.forall_mem_cons, List.not_mem_nil, false_implies, implies_true, and_true,
    Int64.toInt_zero, Int.add_zero, year, part, true_and]
  exact ⟨fun fits => ⟨fits.1, fits.2.1⟩, fun fits => ⟨fits.1, fits.2, fits.2⟩⟩

/-- Where the numbers on the way are words, a point that is not shifted is rewritten at the places of its period. -/
theorem shift_unshifted {period : Period} {year : Nat} {part : Option Nat}
    (shape : part.isSome = period.partField?.isSome) {point : List Value}
    (readable : Readable period.perYear year part point) {shifted : List Value} :
    (Shifter.period year part period.perYear 0 0).shift point = some shifted ↔
      Countable period.perYear year part point ∧ rewritten (year :: part.toList) point = shifted := by
  obtain ⟨y, yearRead⟩ := readable.year
  have yearWritten : point.set year (writtenAs (cell point year) y.toInt) = rewritten [year] point := by
    have written := set_rewritten [] yearRead
    rwa [rewritten_nil, List.nil_append] at written
  have unmoved : y.toInt + (0 : Int64).toInt = y.toInt := Int.add_zero _
  cases part with
  | none =>
    have fits := fitsWord_toInt y
    rw [shift_year (getElem?_of_read yearRead) yearRead, unmoved, if_pos fits, Option.some.injEq, yearWritten]
    exact (and_iff_right fun place listed => nomatch listed).symm
  | some part =>
    obtain ⟨s, partRead, low, high⟩ := readable.part part rfl
    have parts : period.partField?.isSome := shape ▸ rfl
    have place : shiftedPlace period.perYear y s 0 0 = y.toInt * period.perYear + (s.toInt - 1) := by
      unfold shiftedPlace
      rw [unmoved]
      exact Int.add_zero _
    obtain ⟨yearPlace, partPlace⟩ := place_parts parts y.toInt low high
    have partWritten := set_rewritten [year] partRead
    have countable : (∀ n ∈ partSteps period.perYear y s 0 0, FitsWord n) ↔
        Countable period.perYear year (some part) point :=
      (partSteps_unshifted period.perYear y low).trans (countable_iff yearRead partRead).symm
    rw [shift_part (getElem?_of_read yearRead) yearRead (getElem?_of_read partRead) partRead, shiftedPart_eq,
      Option.map_if, place, yearPlace, partPlace, yearWritten, partWritten, Option.ite_none_right_eq_some,
      Option.some.injEq, countable]
    rfl

/-- What is asked of a point that is not shifted. -/
structure Stays (perYear year : Nat) (part : Option Nat) (point : List Value) : Prop where
  returns : ((Shifter.period year part perYear 0 0).shift point).isSome ↔ Countable perYear year part point
  same : ∀ shifted, (Shifter.period year part perYear 0 0).shift point = some shifted →
    (shifted = point ↔ ∀ place ∈ year :: part.toList, (cell point place).IsPlain)
  numbers : ∀ shifted, (Shifter.period year part perYear 0 0).shift point = some shifted →
    ∀ place ∈ year :: part.toList, integer? (cell shifted place) = integer? (cell point place)
  others : ∀ shifted, (Shifter.period year part perYear 0 0).shift point = some shifted →
    ∀ place ∉ year :: part.toList, shifted[place]? = point[place]?

theorem Readable.read {perYear year : Nat} {part : Option Nat} {point : List Value}
    (readable : Readable perYear year part point) {place : Nat} (listed : place ∈ year :: part.toList) :
    ∃ n, integer? (cell point place) = some n := by
  rcases List.mem_cons.mp listed with rfl | later
  · exact readable.year
  · obtain ⟨s, read, -⟩ := readable.part place (Option.mem_toList.mp later)
    exact ⟨s, read⟩

theorem cell_rewritten {places : List Nat} {point : List Value} {place : Nat} {n : Int64} (listed : place ∈ places)
    (read : integer? (cell point place) = some n) :
    cell (rewritten places point) place = writtenAs (cell point place) n.toInt := by
  rw [cell, getElem?_rewritten, if_pos listed, getElem?_of_read read, Option.map_some, Option.getD_some,
    rewrite_of_read read]

/-- A point is kept when its period is written again just if all cells of that are written as they stand. -/
theorem rewritten_eq_iff {places : List Nat} {point : List Value}
    (read : ∀ place ∈ places, ∃ n, integer? (cell point place) = some n) :
    rewritten places point = point ↔ ∀ place ∈ places, (cell point place).IsPlain := by
  constructor
  · intro kept place listed
    obtain ⟨n, here⟩ := read place listed
    have same := cell_rewritten listed here
    rw [kept] at same
    exact (writtenAs_eq_iff here).mp same.symm
  · intro plain
    refine List.ext_getElem? fun place => ?_
    rw [getElem?_rewritten]
    split
    next listed =>
      obtain ⟨n, here⟩ := read place listed
      rw [getElem?_of_read here, Option.map_some, rewrite_of_read here, (writtenAs_eq_iff here).mpr (plain place listed)]
    next => rfl

theorem stays {period : Period} {year : Nat} {part : Option Nat}
    (shape : part.isSome = period.partField?.isSome) {point : List Value}
    (readable : Readable period.perYear year part point) : Stays period.perYear year part point := by
  have result {shifted : List Value} :
      (Shifter.period year part period.perYear 0 0).shift point = some shifted ↔
        Countable period.perYear year part point ∧ rewritten (year :: part.toList) point = shifted :=
    shift_unshifted shape readable
  refine ⟨?_, fun shifted here => ?_, fun shifted here place listed => ?_, fun shifted here place other => ?_⟩
  · rw [Option.isSome_iff_exists]
    exact ⟨fun ⟨_, here⟩ => (result.mp here).1, fun countable => ⟨_, result.mpr ⟨countable, rfl⟩⟩⟩
  · rw [← (result.mp here).2]
    exact rewritten_eq_iff fun place => readable.read
  · obtain ⟨n, read⟩ := readable.read listed
    rw [← (result.mp here).2, cell_rewritten listed read, integer?_writtenAs read, read]
  · rw [← (result.mp here).2, getElem?_rewritten, if_neg other]

/-- A point whose period is written as it stands, at places that can be counted. -/
structure Settled (perYear year : Nat) (part : Option Nat) (point : List Value) : Prop where
  readable : Readable perYear year part point
  plain : ∀ place ∈ year :: part.toList, (cell point place).IsPlain
  countable : Countable perYear year part point

theorem Settled.of_cells {perYear year part : Nat} {point : List Value} {y s : Int64}
    (yearRead : integer? (cell point year) = some y) (partRead : integer? (cell point part) = some s)
    (low : 1 ≤ s.toInt) (high : s.toInt ≤ perYear) (yearPlain : (cell point year).IsPlain)
    (partPlain : (cell point part).IsPlain) (first : FitsWord (y.toInt * perYear))
    (here : FitsWord (y.toInt * perYear + (s.toInt - 1))) : Settled perYear year (some part) point where
  readable := ⟨⟨y, yearRead⟩, by rintro _ ⟨⟩; exact ⟨s, partRead, low, high⟩⟩
  plain := List.forall_mem_cons.mpr ⟨yearPlain, List.forall_mem_singleton.mpr partPlain⟩
  countable := (countable_iff yearRead partRead).mpr ⟨first, here⟩

theorem shift_settled {period : Period} {year : Nat} {part : Option Nat}
    (shape : part.isSome = period.partField?.isSome) {point : List Value}
    (settled : Settled period.perYear year part point) :
    (Shifter.period year part period.perYear 0 0).shift point = some point :=
  (shift_unshifted shape settled.readable).mpr
    ⟨settled.countable, (rewritten_eq_iff fun _ => settled.readable.read).mpr settled.plain⟩

/-! ### Positions -/

theorem mem_of_positionOf? {positions : SortedMap Field String} {name position : String}
    (found : positionOf? positions name = some position) : ∃ entry ∈ positions.entries, entry.2 = position := by
  obtain ⟨entry, first, same⟩ := Option.map_eq_some_iff.mp found
  exact ⟨entry, List.mem_of_find?_eq_some first, same⟩

theorem parse_of_keepsPlace {position : String} (keeps : keepsPlace position = true) :
    Shift.parse position = .ok (.offset 0) := by
  unfold keepsPlace at keeps
  cases parsed : Shift.parse position with
  | error error =>
    rw [parsed] at keeps
    cases keeps
  | ok shift =>
    rw [parsed] at keeps
    obtain rfl := of_decide_eq_true keeps
    rfl

theorem shiftOf_of_keepsPlace {positions : SortedMap Field String}
    (kept : ∀ entry ∈ positions.entries, keepsPlace entry.2 = true) (name : String) :
    shiftOf positions name = .ok (.offset 0) := by
  unfold shiftOf
  cases found : positionOf? positions name with
  | none => rfl
  | some position =>
    obtain ⟨entry, listed, rfl⟩ := mem_of_positionOf? found
    exact parse_of_keepsPlace (kept entry listed)

theorem checkPeriod_of_keepsPlace {positions : SortedMap Field String}
    (kept : ∀ entry ∈ positions.entries, keepsPlace entry.2 = true) (label : String) (period : Period) :
    checkPeriod label period positions = .ok () := by
  unfold checkPeriod
  dsimp only
  split
  next found =>
    have moved := List.find?_some found
    rw [kept _ (List.mem_of_find?_eq_some found)] at moved
    simp at moved
  next => rfl

theorem ofPeriod_unshifted {period : Period} {positions : SortedMap Field String} {names : List String}
    (kept : ∀ entry ∈ positions.entries, keepsPlace entry.2 = true) {year : Nat} {part : Option Nat}
    (yearPlace : columnPlace names period.yearField.name = .ok year)
    (partPlace : period.partField?.mapM (fun field => columnPlace names field.name) = .ok part)
    (label : String) :
    ofPeriod label period positions names = .ok (.period year part period.perYear 0 0) := by
  have offset (name : String) : offsetOf label positions name = .ok 0 := by
    unfold offsetOf
    rw [shiftOf_of_keepsPlace kept]
    rfl
  unfold ofPeriod
  rw [checkPeriod_of_keepsPlace kept, yearPlace, partPlace, offset]
  cases period.partField? with
  | none => rfl
  | some field =>
    simp only [offset]
    rfl

/-- The columns of a period among the grouping columns of a table, at places that are not shifted. -/
structure Unshifted (positions : SortedMap Field String) (period : Period) (names : List String) (year : Nat)
    (part : Option Nat) : Prop where
  kept : ∀ entry ∈ positions.entries, keepsPlace entry.2 = true
  year : columnPlace names period.yearField.name = .ok year
  part : period.partField?.mapM (fun field => columnPlace names field.name) = .ok part

theorem Unshifted.shape {positions : SortedMap Field String} {period : Period} {names : List String} {year : Nat}
    {part : Option Nat} (unshifted : Unshifted positions period names year part) :
    part.isSome = period.partField?.isSome := by
  have placed := unshifted.part
  cases optional : period.partField? with
  | none =>
    rw [optional] at placed
    obtain rfl := Except.ok.inj placed
    rfl
  | some field =>
    rw [optional] at placed
    obtain ⟨place, -, same⟩ := bind_eq_ok.mp placed
    obtain rfl := Except.ok.inj same
    rfl

end Shifter

/-! ### Comparisons -/

/-- A column with a given value in each row whose period is settled. -/
structure Table.HoldsWhereSettled (table : Table) (perYear year : Nat) (part : Option Nat) (value : Nat → Value)
    (cells : List Value) : Prop where
  length : cells.length = table.rowCount
  settled : ∀ row ∈ table.rowIndices, Shifter.Settled perYear year part (table.point row) →
    cells[row]? = some (value row)

/-- A comparison whose positions keep their places relates each row whose period is settled to the last row of its
own point. -/
theorem ComparisonMethod.column_unshifted {positions : SortedMap Field String} {period : Period} {current : Table}
    {year : Nat} {part : Option Nat}
    (unshifted : Shifter.Unshifted positions period current.groupingNames year part) (scope : Scope)
    (label : String) (columnSet : Option ColumnSetKey) (ancestors : Option (List Field))
    (method : ComparisonMethod) {reference : Table} {grouping : List Column} {base : String} {own operand : Column}
    (named : reference.columnsNamed current.groupingNames = .ok grouping) (here : current.find? base = some own)
    (there : reference.find? base = some operand) :
    ∃ cells, method.column base current reference
        (Shifter.ofComparison scope label positions (some period) columnSet ancestors) = .ok cells ∧
      current.HoldsWhereSettled period.perYear year part (fun row => method.apply (own.cell row)
        (((reference.lastRowAt? grouping (current.point row)).map operand.cell).getD .null)) cells := by
  have made : Shifter.ofComparison scope label positions (some period) columnSet ancestors current.groupingNames =
      .ok (.period year part period.perYear 0 0) :=
    Shifter.ofPeriod_unshifted unshifted.kept unshifted.year unshifted.part label
  refine ⟨_, Shifter.column_of_foundCells named made here there, ?_, fun row listed settled => ?_⟩
  · rw [List.length_zipWith, Shifter.foundCells, List.length_map, List.length_map, List.length_map, Nat.min_self,
      Table.rowIndices, List.length_range]
  · rw [Table.rowIndices, List.mem_range] at listed
    rw [List.getElem?_zipWith, Shifter.foundCells, List.map_map, List.getElem?_map, List.getElem?_map,
      Table.rowIndices, List.getElem?_range listed, Option.map_some, Option.map_some, Function.comp_apply,
      Shifter.shift_settled unshifted.shape settled, Option.bind_some]

/-- A point that is not shifted keeps the integers of its period, and is the same point just where they are written
as they stand. A comparison without a shift relates each row of such a point to what its reference has at that point,
which in its own table is the row itself. -/
theorem Period.unshifted_compares_itself (period : Period) :
    (∀ (year : Nat) (part : Option Nat) (point : List Value), part.isSome = period.partField?.isSome →
      Shifter.Readable period.perYear year part point → Shifter.Stays period.perYear year part point) ∧
    ∀ (positions : SortedMap Field String) (current : Table) (year : Nat) (part : Option Nat) (base : String)
      (own : Column), Shifter.Unshifted positions period current.groupingNames year part →
      current.find? base = some own →
      ∀ (scope : Scope) (label : String) (columnSet : Option ColumnSetKey) (ancestors : Option (List Field))
        (method : ComparisonMethod),
        (∀ (reference : Table) (grouping : List Column) (operand : Column),
          reference.columnsNamed current.groupingNames = .ok grouping → reference.find? base = some operand →
          ∃ cells, method.column base current reference
              (Shifter.ofComparison scope label positions (some period) columnSet ancestors) = .ok cells ∧
            current.HoldsWhereSettled period.perYear year part (fun row => method.apply (own.cell row)
              (((reference.lastRowAt? grouping (current.point row)).map operand.cell).getD .null)) cells) ∧
        (current.WellFormed →
          (∀ row ∈ current.rowIndices, ∀ other ∈ current.rowIndices, current.point other = current.point row →
            own.cell other = own.cell row) →
          ∃ cells, method.column base current current
              (Shifter.ofComparison scope label positions (some period) columnSet ancestors) = .ok cells ∧
            current.HoldsWhereSettled period.perYear year part
              (fun row => method.apply (own.cell row) (own.cell row)) cells) := by
  refine ⟨fun year part point shape readable => Shifter.stays shape readable, ?_⟩
  intro positions current year part base own unshifted here scope label columnSet ancestors method
  refine ⟨fun reference grouping operand named there =>
    method.column_unshifted unshifted scope label columnSet ancestors named here there, fun formed told => ?_⟩
  have named : current.columnsNamed current.groupingNames = .ok current.groupingColumns :=
    formed.columnsNamed_eq List.filter_sublist.subset
  obtain ⟨cells, ran, holds⟩ := method.column_unshifted unshifted scope label columnSet ancestors named here here
  refine ⟨cells, ran, holds.length, fun row listed settled => ?_⟩
  rw [holds.settled row listed settled, Table.found_at_own_point told listed]

/-! ### Quarters -/

def quarters : Period := .quarter (.ofName "year") (.ofName "quarter")

def unmovedPositions : SortedMap Field String := .ofList [(.ofName "year", "y"), (.ofName "quarter", "y+0")]

def quartersScope : Scope where
  table := some ⟨"sales", []⟩
  subQuery := none
  columns := [.ofName "year", .ofName "quarter"]
  rollup := []
  groupingSets := []
  bucketSet := none
  whereCriteria := none
  havingCriteria := none
  limit := none
  virtualTables := []

/-- The years are texts in one row and floats in the next. -/
def quartersTable : Table where
  columns :=
    [⟨.grouping "year" .string, [.str "2022", .float (.ofInt 2023)]⟩,
     ⟨.grouping "quarter" .long, [.int 4, .int 1]⟩, ⟨.measure "sold" .long, [.int 10, .int 27]⟩]

theorem quartersTable_settled : ∀ row ∈ quartersTable.rowIndices,
    Shifter.Settled 4 0 (some 1) (quartersTable.point row) := by
  have text : (Value.str "2022").IsPlain := .text (.unsigned ⟨by decide, List.all_eq_true.mp (by decide), by decide⟩)
  have float : (Value.float (.ofInt 2023)).IsPlain :=
    .float (n := 2023) (by decide +kernel) (by decide +kernel) (by decide) (by decide)
  intro row listed
  obtain rfl | rfl : row = 0 ∨ row = 1 := by
    have inside : row < 2 := List.mem_range.mp listed
    omega
  · exact .of_cells (y := 2022) (s := 4) (by decide +kernel) rfl (by decide) (by decide) text (.int 4) (by decide)
      (by decide)
  · exact .of_cells (y := 2023) (s := 1) (by decide +kernel) rfl (by decide) (by decide) float (.int 1) (by decide)
      (by decide)

def months : Period := .month (.ofName "year") (.ofName "month")

/-- A month with a leading zero, and one that is written as it stands. -/
def monthsTable : Table where
  columns :=
    [⟨.grouping "year" .long, [.int 2023, .int 2023]⟩, ⟨.grouping "month" .string, [.str "02", .str "11"]⟩,
     ⟨.measure "sold" .long, [.int 10, .int 27]⟩]

def unmovedMonths : SortedMap Field String := .ofList [(.ofName "year", "y"), (.ofName "month", "m")]

theorem monthsTable_readable : Shifter.Readable 12 0 (some 1) (monthsTable.point 0) where
  year := ⟨2023, rfl⟩
  part := by
    rintro _ ⟨⟩
    exact ⟨2, by decide +kernel, by decide, by decide⟩

theorem leadingZero_not_plain : ¬(Value.str "02").IsPlain := by
  intro plain
  have kept := (Shifter.writtenAs_eq_iff (n := 2) (by decide +kernel)).mpr plain
  exact absurd kept (by decide +kernel)

/-- Each quarter is compared with itself, whatever its year is written as. The month with a leading zero is written
without it, and then it is the month of no row. -/
theorem quarters_compared_with_themselves :
    Shifter.Stays 4 0 (some 1) (quartersTable.point 0) ∧
      (∃ cells, ComparisonMethod.absoluteDifference.column "sold" quartersTable quartersTable
        (Shifter.ofComparison quartersScope "growth" unmovedPositions (some quarters) none none) = .ok cells ∧
        cells = [.int 0, .int 0]) ∧
      (∃ shifted, (Shifter.period 0 (some 1) 12 0 0).shift (monthsTable.point 0) = some shifted ∧
        shifted ≠ monthsTable.point 0) ∧
      ComparisonMethod.absoluteDifference.column "sold" monthsTable monthsTable
        (Shifter.ofComparison quartersScope "growth" unmovedMonths (some months) none none) =
          .ok [.null, .int 0] := by
  obtain ⟨stays, compares⟩ := quarters.unshifted_compares_itself
  refine ⟨stays 0 (some 1) _ rfl (quartersTable_settled 0 (by decide)).readable, ?_, ?_, by decide +kernel⟩
  · have unshifted : Shifter.Unshifted unmovedPositions quarters quartersTable.groupingNames 0 (some 1) :=
      ⟨by decide +kernel, by decide +kernel, by decide +kernel⟩
    have formed : quartersTable.WellFormed := Table.checkColumns_eq_ok.mp (by decide +kernel)
    obtain ⟨cells, ran, holds⟩ := (compares unmovedPositions quartersTable 0 (some 1) "sold" _ unshifted rfl
      quartersScope "growth" none none .absoluteDifference).2 formed (by decide +kernel)
    refine ⟨cells, ran, ?_⟩
    have first := holds.settled 0 (by decide) (quartersTable_settled 0 (by decide))
    have second := holds.settled 1 (by decide) (quartersTable_settled 1 (by decide))
    obtain ⟨a, b, rfl⟩ := List.length_eq_two.mp holds.length
    rw [Option.some.inj first, Option.some.inj second]
    decide +kernel
  · have written : (Shifter.period 0 (some 1) 12 0 0).shift (monthsTable.point 0) =
        some [.int 2023, .str "2"] := by decide +kernel
    have monthStays := months.unshifted_compares_itself.1 0 (some 1) _ rfl monthsTable_readable
    refine ⟨_, written, fun same => leadingZero_not_plain ?_⟩
    exact (monthStays.same _ written).mp same 1 (by simp)

end CubeQuery
