import CubeQuery.Execution.Shifter
import CubeQuery.Proofs.Plan.DerivedScopes

/-! The errors that the definition of a measure can cause when it is evaluated in memory. -/

namespace CubeQuery

open Steps

/-- An error for which the measure itself is to blame, in a scope with its columns. -/
inductive Measure.Fault (scope : Scope) : Measure → QueryError → Prop where
  /-- A position cannot be read. -/
  | position {label : String} {method : ComparisonMethod} {base : Measure}
      {positions : SortedMap Field String} {period : Option Period}
      {columnSet : Option ColumnSetKey} {ancestors : Option (List Field)} {field : Field}
      {position : String} {error : QueryError} (written : (field, position) ∈ positions.entries)
      (unreadable : Shift.parse position = .error error) :
      Fault scope (.comparison label method base positions period columnSet ancestors) error
  /-- A position of a period is `first`. -/
  | firstInPeriod {label : String} {method : ComparisonMethod} {base : Measure}
      {positions : SortedMap Field String} {period : Period}
      {columnSet : Option ColumnSetKey} {ancestors : Option (List Field)} {field : Field}
      {position : String} (written : (field, position) ∈ positions.entries)
      (own : field.name ∈ period.fields.map Field.name) (first : Shift.parse position = .ok .first) :
      Fault scope (.comparison label method base positions (some period) columnSet ancestors)
        (.invalidQuery (.firstInPeriod label))
  /-- A column outside of the period is moved. -/
  | shiftOutsidePeriod {label : String} {method : ComparisonMethod} {base : Measure}
      {positions : SortedMap Field String} {period : Period}
      {columnSet : Option ColumnSetKey} {ancestors : Option (List Field)} {field : Field}
      {position : String} (written : (field, position) ∈ positions.entries)
      (outside : field.name ∉ period.fields.map Field.name)
      (moved : Shift.parse position ≠ .ok (.offset 0)) :
      Fault scope (.comparison label method base positions (some period) columnSet ancestors)
        (.invalidQuery (.shiftOutsidePeriod label field.name))
  /-- The column that the buckets group is not there. -/
  | bucketSource {label : String} {method : ComparisonMethod} {base : Measure}
      {positions : SortedMap Field String} {set : BucketSet} (buckets : scope.bucketSet = some set)
      (absent : set.field.name ∉ scope.groupingNames) :
      Fault scope (.comparison label method base positions none (some .bucket) none)
        (.table (.unknownColumn set.field.name))
  | noComponents {label : String} {axis : Field} {transformer : Option String} :
      Fault scope (.vector label [] axis transformer) (.incorrectPath (.noComponents label))

namespace Shifter

theorem columnPlace_of_mem {names : List String} {name : String} (listed : name ∈ names) :
    ∃ place, columnPlace names name = .ok place := by
  unfold columnPlace
  obtain ⟨place, found⟩ := Option.isSome_iff_exists.mp (List.isSome_idxOf?.mpr listed)
  exact ⟨place, by rw [found]⟩

theorem columnPlace_eq_error {names : List String} {name : String} {error : QueryError}
    (failed : columnPlace names name = .error error) :
    name ∉ names ∧ error = .table (.unknownColumn name) := by
  refine ⟨fun listed => ?_, ?_⟩
  · obtain ⟨place, found⟩ := columnPlace_of_mem listed
    rw [found] at failed
    cases failed
  · unfold columnPlace at failed
    split at failed
    · cases failed
    · exact (Except.error.inj failed).symm

theorem positionOf?_eq_some {positions : SortedMap Field String} {name position : String}
    (found : positionOf? positions name = some position) :
    ∃ field, (field, position) ∈ positions.entries ∧ field.name = name := by
  unfold positionOf? at found
  obtain ⟨⟨field, text⟩, entry, rfl⟩ := Option.map_eq_some_iff.mp found
  exact ⟨field, List.mem_of_find?_eq_some entry, by simpa using List.find?_some entry⟩

theorem shiftOf_eq_ok {positions : SortedMap Field String} {name : String} {shift : Shift}
    (read : shiftOf positions name = .ok shift) :
    shift = .offset 0 ∨ ∃ field position, (field, position) ∈ positions.entries ∧ field.name = name ∧
      Shift.parse position = .ok shift := by
  unfold shiftOf at read
  cases found : positionOf? positions name with
  | none =>
    rw [found] at read
    exact .inl (Except.ok.inj read).symm
  | some position =>
    rw [found] at read
    obtain ⟨field, written, same⟩ := positionOf?_eq_some found
    exact .inr ⟨field, position, written, same, read⟩

theorem shiftOf_eq_error {positions : SortedMap Field String} {name : String} {error : QueryError}
    (failed : shiftOf positions name = .error error) :
    ∃ field position, (field, position) ∈ positions.entries ∧ field.name = name ∧
      Shift.parse position = .error error := by
  unfold shiftOf at failed
  cases found : positionOf? positions name with
  | none =>
    rw [found] at failed
    cases failed
  | some position =>
    rw [found] at failed
    obtain ⟨field, written, same⟩ := positionOf?_eq_some found
    exact ⟨field, position, written, same, failed⟩

section

variable {scope : Scope} {label : String} {method : ComparisonMethod} {base : Measure}
  {positions : SortedMap Field String} {columnSet : Option ColumnSetKey}
  {ancestors : Option (List Field)} {names : List String} {error : QueryError}

theorem checkPeriod_fault {period : Period} (failed : checkPeriod label period positions = .error error) :
    Measure.Fault scope (.comparison label method base positions (some period) columnSet ancestors)
      error := by
  unfold checkPeriod at failed
  simp only at failed
  split at failed
  · next field position found =>
    obtain rfl := Except.error.inj failed
    have moved := List.find?_some found
    simp only [Bool.and_eq_true, Bool.not_eq_true', List.contains_eq_mem,
      decide_eq_false_iff_not] at moved
    refine .shiftOutsidePeriod (List.mem_of_find?_eq_some found) moved.1 fun kept => ?_
    simp [keepsPlace, kept] at moved
  · cases failed

theorem offsetOf_fault {period : Period} {field : Field} (own : field ∈ period.fields)
    (failed : offsetOf label positions field.name = .error error) :
    Measure.Fault scope (.comparison label method base positions (some period) columnSet ancestors)
      error := by
  rcases bind_eq_error.mp failed with unreadable | ⟨shift, read, rest⟩
  · obtain ⟨source, position, written, -, unreadable⟩ := shiftOf_eq_error unreadable
    exact .position written unreadable
  · cases shift with
    | offset places => cases rest
    | first =>
      obtain rfl := Except.error.inj rest
      rcases shiftOf_eq_ok read with impossible | ⟨source, position, written, same, read⟩
      · cases impossible
      · exact .firstInPeriod written (same ▸ List.mem_map_of_mem own) read

theorem ofPeriod_fault {period : Period} (named : ∀ field ∈ period.fields, field.name ∈ names)
    (failed : ofPeriod label period positions names = .error error) :
    Measure.Fault scope (.comparison label method base positions (some period) columnSet ancestors)
      error := by
  have yearOwn : period.yearField ∈ period.fields := List.mem_cons_self
  rcases bind_eq_error.mp failed with failed | ⟨_, -, failed⟩
  · exact checkPeriod_fault failed
  rcases bind_eq_error.mp failed with failed | ⟨year, -, failed⟩
  · exact absurd (named _ yearOwn) (columnPlace_eq_error failed).1
  cases part_eq : period.partField? with
  | none =>
    simp only [part_eq] at failed
    rcases bind_eq_error.mp failed with impossible | ⟨part, -, failed⟩
    · cases impossible
    rcases bind_eq_error.mp failed with failed | ⟨yearShift, -, failed⟩
    · exact offsetOf_fault yearOwn failed
    · cases failed
  | some field =>
    have partOwn : field ∈ period.fields := by simp [Period.fields, part_eq]
    simp only [part_eq] at failed
    rcases bind_eq_error.mp failed with failed | ⟨part, -, failed⟩
    · obtain ⟨place, placed⟩ := columnPlace_of_mem (named field partOwn)
      rw [Option.mapM_some, placed] at failed
      cases failed
    rcases bind_eq_error.mp failed with failed | ⟨yearShift, -, failed⟩
    · exact offsetOf_fault yearOwn failed
    rcases bind_eq_error.mp failed with failed | ⟨partShift, -, failed⟩
    · exact offsetOf_fault partOwn failed
    · cases failed

theorem ofBucketSet_fault {set : BucketSet} (buckets : scope.bucketSet = some set)
    (same : ∀ name, name ∈ names ↔ name ∈ scope.groupingNames)
    (failed : ofBucketSet set positions names = .error error) :
    Measure.Fault scope (.comparison label method base positions none (some .bucket) none) error := by
  have bucketColumn : set.name ∈ names := by
    rw [same]
    unfold Scope.groupingNames
    rw [buckets]
    exact List.mem_append_left _ (List.mem_singleton_self _)
  rcases bind_eq_error.mp failed with failed | ⟨group, -, failed⟩
  · exact absurd bucketColumn (columnPlace_eq_error failed).1
  rcases bind_eq_error.mp failed with failed | ⟨member, -, failed⟩
  · obtain ⟨absent, rfl⟩ := columnPlace_eq_error failed
    exact .bucketSource buckets fun listed => absent ((same _).mpr listed)
  rcases bind_eq_error.mp failed with failed | ⟨groupShift, -, failed⟩
  · obtain ⟨field, position, written, -, unreadable⟩ := shiftOf_eq_error failed
    exact .position written unreadable
  rcases bind_eq_error.mp failed with failed | ⟨memberShift, -, failed⟩
  · obtain ⟨field, position, written, -, unreadable⟩ := shiftOf_eq_error failed
    exact .position written unreadable
  · cases failed

/-- Where the reference scope can be derived, making a shifter fails only by the measure's fault. -/
theorem ofComparison_fault {reference : Scope} {period : Option Period}
    (found : scope.forComparison label period columnSet ancestors = .ok reference)
    (same : ∀ name, name ∈ names ↔ name ∈ scope.groupingNames)
    (failed : ofComparison scope label positions period columnSet ancestors names = .error error) :
    Measure.Fault scope (.comparison label method base positions period columnSet ancestors) error := by
  rcases Scope.forComparison_cases found with
    ⟨calendar, rfl, selected, -⟩ | ⟨fields, rfl, rfl, -⟩ | ⟨rfl, rfl, rfl, buckets, -⟩
  · refine ofPeriod_fault (fun field own => (same _).mpr ?_) failed
    obtain ⟨column, listed, column_eq⟩ := List.any_eq_true.mp (selected field own)
    rw [← of_decide_eq_true column_eq]
    exact List.mem_append_right _ (List.mem_map_of_mem listed)
  · cases failed
  · obtain ⟨set, set_eq⟩ := Option.isSome_iff_exists.mp buckets
    unfold ofComparison at failed
    simp only [set_eq] at failed
    exact ofBucketSet_fault set_eq same failed

end

end Shifter

end CubeQuery
