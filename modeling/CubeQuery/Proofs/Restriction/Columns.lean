import CubeQuery.Execution.Evaluation
import CubeQuery.Proofs.Restriction.Selection

/-! Columns computed over some of the rows of a table are those computed over all of them, at these
rows. Operators go row by row; a comparison has to find the rows that it refers to, and a vector the
rows that it collects. -/

namespace CubeQuery

open Steps

/-- The values at some rows. -/
def valuesAt (kept : List Nat) (values : List Value) : List Value :=
  kept.map fun row => values[row]?.getD .null

section

variable {current whole reference wholeReference : Table} {kept keptReference : List Nat}
  {values others : List Value}

/-- Values that are computed row by row. -/
theorem valuesAt_map (sublist : kept.Sublist whole.rowIndices) (compute : Nat → Value) :
    valuesAt kept (whole.rowIndices.map compute) = kept.map compute := by
  refine List.map_congr_left fun row listed => ?_
  have inside := List.mem_range.mp (sublist.subset listed)
  simp [Table.rowIndices, inside]

theorem BinaryOperator.column_picked (selects : current.Selects whole kept)
    (lengths : ∀ column ∈ whole.columns, column.values.length = whole.rowCount)
    {operator : BinaryOperator} {left right : String}
    (ran : operator.column left right current = .ok values)
    (wholeRan : operator.column left right whole = .ok others) : values = valuesAt kept others := by
  unfold BinaryOperator.column at ran wholeRan
  obtain ⟨lefts, leftFound, ran⟩ := bind_eq_ok.mp ran
  obtain ⟨rights, rightFound, ran⟩ := bind_eq_ok.mp ran
  obtain ⟨wholeLefts, wholeLeftFound, wholeRan⟩ := bind_eq_ok.mp wholeRan
  obtain ⟨wholeRights, wholeRightFound, wholeRan⟩ := bind_eq_ok.mp wholeRan
  obtain rfl := Except.ok.inj ran
  obtain rfl := Except.ok.inj wholeRan
  have wholeLeft := Table.column_eq_ok.mp (mapError_eq_ok.mp wholeLeftFound)
  have wholeRight := Table.column_eq_ok.mp (mapError_eq_ok.mp wholeRightFound)
  have leftPicked := selects.found (Table.column_eq_ok.mp (mapError_eq_ok.mp leftFound)) wholeLeft
  have rightPicked := selects.found (Table.column_eq_ok.mp (mapError_eq_ok.mp rightFound)) wholeRight
  unfold Column.PickedFrom at leftPicked rightPicked
  rw [leftPicked, rightPicked, List.zipWith_map, List.zipWith_self]
  refine List.map_congr_left fun row listed => ?_
  have inside := List.mem_range.mp (selects.sublist.subset listed)
  have leftInside : row < wholeLefts.values.length := by
    rwa [lengths _ (Table.mem_of_find? wholeLeft)]
  have rightInside : row < wholeRights.values.length := by
    rwa [lengths _ (Table.mem_of_find? wholeRight)]
  simp [Column.cell, List.getElem?_zipWith, leftInside, rightInside]

/-- The value that is referred to, where no row of the reference point is missing. -/
theorem Shifter.referenceValue_eq (selects : reference.Selects wholeReference keptReference)
    {grouping otherGrouping : List Column} {operand other : Column} (shifter : Shifter)
    (picked : List.Forall₂ (fun column other => column.PickedFrom keptReference other) grouping
      otherGrouping)
    (operandPicked : operand.PickedFrom keptReference other) {point : List Value}
    (all : ∀ target, shifter.shift point = some target →
      keptReference.filter (fun row => Table.cells otherGrouping row = target) =
        wholeReference.rowIndices.filter fun row => Table.cells otherGrouping row = target) :
    shifter.referenceValue reference grouping operand point =
      shifter.referenceValue wholeReference otherGrouping other point := by
  unfold referenceValue
  cases shifted : shifter.shift point with
  | none => rfl
  | some target =>
    rw [Option.bind_some, Option.bind_some, ← selects.lastRowAt?_eq picked (all target shifted)]
    cases last : reference.lastRowAt? grouping target with
    | none => rfl
    | some row =>
      have listed := List.mem_reverse.mp (List.mem_of_find?_eq_some last)
      rw [selects.rowIndices_eq] at listed
      exact Table.cell_of_picked operandPicked (List.mem_range.mp listed)

theorem ComparisonMethod.column_picked (selects : current.Selects whole kept)
    (referenceSelects : reference.Selects wholeReference keptReference)
    {method : ComparisonMethod} {operand : String} {shifterOf : List String → Except QueryError Shifter}
    (all : ∀ shifter grouping, shifterOf whole.groupingNames = .ok shifter →
      wholeReference.columnsNamed whole.groupingNames = .ok grouping → ∀ point ∈ current.points,
        ∀ target, shifter.shift point = some target →
          keptReference.filter (fun row => Table.cells grouping row = target) =
            wholeReference.rowIndices.filter fun row => Table.cells grouping row = target)
    (ran : method.column operand current reference shifterOf = .ok values)
    (wholeRan : method.column operand whole wholeReference shifterOf = .ok others) :
    values = valuesAt kept others := by
  unfold ComparisonMethod.column at ran wholeRan
  rw [selects.groupingNames_eq] at ran
  obtain ⟨grouping, groupingFound, ran⟩ := bind_eq_ok.mp ran
  obtain ⟨shifter, shifterFound, ran⟩ := bind_eq_ok.mp ran
  obtain ⟨column, columnFound, ran⟩ := bind_eq_ok.mp ran
  obtain ⟨referenceColumn, referenceFound, ran⟩ := bind_eq_ok.mp ran
  obtain ⟨otherGrouping, otherGroupingFound, wholeRan⟩ := bind_eq_ok.mp wholeRan
  obtain ⟨otherShifter, otherShifterFound, wholeRan⟩ := bind_eq_ok.mp wholeRan
  obtain ⟨other, otherFound, wholeRan⟩ := bind_eq_ok.mp wholeRan
  obtain ⟨otherReference, otherReferenceFound, wholeRan⟩ := bind_eq_ok.mp wholeRan
  obtain rfl := Except.ok.inj (shifterFound.symm.trans otherShifterFound)
  obtain rfl := Except.ok.inj ran
  obtain rfl := Except.ok.inj wholeRan
  have groupingPicked := referenceSelects.columnsNamed (mapError_eq_ok.mp groupingFound)
    (mapError_eq_ok.mp otherGroupingFound)
  have picked := selects.found (Table.column_eq_ok.mp (mapError_eq_ok.mp columnFound))
    (Table.column_eq_ok.mp (mapError_eq_ok.mp otherFound))
  have referencePicked := referenceSelects.found
    (Table.column_eq_ok.mp (mapError_eq_ok.mp referenceFound))
    (Table.column_eq_ok.mp (mapError_eq_ok.mp otherReferenceFound))
  rw [valuesAt_map selects.sublist, selects.rowIndices_eq]
  refine Table.map_range_eq fun row inside => ?_
  -- Only the points of rows that are kept are shifted, so nothing is asked of the others.
  have listed : current.point row ∈ current.points := by
    refine List.mem_map_of_mem ?_
    rw [selects.rowIndices_eq]
    exact List.mem_range.mpr inside
  rw [Table.cell_of_picked picked inside, shifter.referenceValue_eq referenceSelects groupingPicked
    referencePicked (all shifter otherGrouping shifterFound (mapError_eq_ok.mp otherGroupingFound) _ listed),
    selects.point_eq inside]

/-- Columns of one name in two tables with the same rows. -/
theorem values_eq_of_selects (selects : reference.Selects wholeReference wholeReference.rowIndices)
    (lengths : ∀ column ∈ wholeReference.columns, column.values.length = wholeReference.rowCount)
    {names : List String} {columns otherColumns : List Column}
    (found : reference.columnsNamed names = .ok columns)
    (otherFound : wholeReference.columnsNamed names = .ok otherColumns) :
    columns.map Column.values = otherColumns.map Column.values := by
  have each := Table.columnsNamed_eq_ok.mp found
  have otherEach := Table.columnsNamed_eq_ok.mp otherFound
  clear found otherFound
  induction each generalizing otherColumns with
  | nil =>
    cases otherEach
    rfl
  | cons first _ ih =>
    cases otherEach with
    | cons otherFirst rest =>
      rw [List.map_cons, List.map_cons, ih rest,
        selects.values_eq first otherFirst (lengths _ (Table.mem_of_find? otherFirst))]

theorem cells_congr {columns otherColumns : List Column}
    (same : columns.map Column.values = otherColumns.map Column.values) :
    Table.cells columns = Table.cells otherColumns := by
  funext row
  have read := congrArg (List.map fun values : List Value => values[row]?.getD .null) same
  rw [List.map_map, List.map_map] at read
  exact read

theorem vectorElement_congr {columns otherColumns : List Column}
    (same : columns.map Column.values = otherColumns.map Column.values) :
    vectorElement columns = vectorElement otherColumns := by
  funext row
  have cells := congrFun (cells_congr same) row
  have length := congrArg List.length same
  rw [List.length_map, List.length_map] at length
  unfold Table.cells at cells
  match columns, otherColumns, length with
  | [], [], _ => rfl
  | [_], [_], _ => exact (List.cons.inj cells).1
  | _ :: _ :: _, _ :: _ :: _, _ => exact congrArg Value.list cells

theorem vectorColumn_picked (selects : current.Selects whole kept)
    (vectorsSelect : reference.Selects wholeReference wholeReference.rowIndices)
    (lengths : ∀ column ∈ wholeReference.columns, column.values.length = wholeReference.rowCount)
    {components : List String} {axis : String} {transformer : Option String}
    (ran : vectorColumn components axis transformer current reference = .ok values)
    (wholeRan : vectorColumn components axis transformer whole wholeReference = .ok others) :
    values = valuesAt kept others := by
  unfold vectorColumn at ran wholeRan
  rw [selects.groupingNames_eq] at ran
  obtain ⟨grouping, groupingFound, ran⟩ := bind_eq_ok.mp ran
  obtain ⟨axisColumn, axisFound, ran⟩ := bind_eq_ok.mp ran
  obtain ⟨columns, columnsFound, ran⟩ := bind_eq_ok.mp ran
  obtain ⟨otherGrouping, otherGroupingFound, wholeRan⟩ := bind_eq_ok.mp wholeRan
  obtain ⟨otherAxis, otherAxisFound, wholeRan⟩ := bind_eq_ok.mp wholeRan
  obtain ⟨otherColumns, otherColumnsFound, wholeRan⟩ := bind_eq_ok.mp wholeRan
  have grouping_eq := cells_congr (values_eq_of_selects vectorsSelect lengths
    (mapError_eq_ok.mp groupingFound) (mapError_eq_ok.mp otherGroupingFound))
  have element_eq := vectorElement_congr (values_eq_of_selects vectorsSelect lengths
    (mapError_eq_ok.mp columnsFound) (mapError_eq_ok.mp otherColumnsFound))
  have otherAxisKnown := Table.column_eq_ok.mp (mapError_eq_ok.mp otherAxisFound)
  have axis_eq : axisColumn.cell = otherAxis.cell := by
    have same := vectorsSelect.values_eq (Table.column_eq_ok.mp (mapError_eq_ok.mp axisFound))
      otherAxisKnown (lengths _ (Table.mem_of_find? otherAxisKnown))
    unfold Column.cell
    rw [same]
  -- Along the axis the same rows are met, as no row of the vectors is missing.
  have rows_eq : vectorRows reference grouping axisColumn =
      vectorRows wholeReference otherGrouping otherAxis := by
    funext point
    unfold vectorRows Table.rowIndices
    rw [vectorsSelect.rowCount_eq, grouping_eq, axis_eq]
  obtain rfl := Except.ok.inj ran
  obtain rfl := Except.ok.inj wholeRan
  rw [valuesAt_map selects.sublist, selects.rowIndices_eq]
  refine Table.map_range_eq fun row inside => ?_
  rw [selects.point_eq inside, rows_eq, element_eq]

end

end CubeQuery
