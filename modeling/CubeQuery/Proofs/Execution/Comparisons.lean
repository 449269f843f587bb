import CubeQuery.Execution.Evaluation
import CubeQuery.Proofs.Table

/-! What the rows of a table are compared with. A comparison reads what a column of the reference has at the shifted
point of a row, or null where there is no such row. -/

namespace CubeQuery

namespace Shifter

/-- What a column has in the rows that the rows of a table are compared with, where there are such rows. -/
def foundCells (shifter : Shifter) (current reference : Table) (grouping : List Column) (operand : Column) :
    List (Option Value) :=
  current.rowIndices.map fun row =>
    ((shifter.shift (current.point row)).bind (reference.lastRowAt? grouping)).map operand.cell

theorem foundCells_eq_map (shifter : Shifter) (current reference : Table) (grouping : List Column)
    (operand : Column) :
    shifter.foundCells current reference grouping operand =
      (current.rowIndices.map current.point).map fun point =>
        ((shifter.shift point).bind (reference.lastRowAt? grouping)).map operand.cell := by
  rw [List.map_map]
  rfl

theorem referenceValue_eq_getD (shifter : Shifter) (reference : Table) (grouping : List Column) (operand : Column)
    (point : List Value) :
    shifter.referenceValue reference grouping operand point =
      (((shifter.shift point).bind (reference.lastRowAt? grouping)).map operand.cell).getD .null := by
  unfold referenceValue
  cases (shifter.shift point).bind (reference.lastRowAt? grouping) <;> rfl

/-- A comparison relates what a row has to what is found for it, or to null. -/
theorem column_of_foundCells {method : ComparisonMethod} {label : String} {current reference : Table}
    {grouping : List Column} {own operand : Column} {shifter : Shifter}
    {shifterOf : List String → Except QueryError Shifter}
    (named : reference.columnsNamed current.groupingNames = .ok grouping)
    (made : shifterOf current.groupingNames = .ok shifter) (here : current.find? label = some own)
    (there : reference.find? label = some operand) :
    method.column label current reference shifterOf =
      .ok (List.zipWith method.apply (current.rowIndices.map own.cell)
        ((shifter.foundCells current reference grouping operand).map fun found => found.getD .null)) := by
  unfold ComparisonMethod.column foundCells
  rw [named, made, Table.column_eq_ok.mpr here, Table.column_eq_ok.mpr there, List.map_map,
    List.zipWith_map, List.zipWith_self]
  simp only [referenceValue_eq_getD]
  rfl

end Shifter

/-- In a table whose rows of one point have one value, the row of a point has the value of the row itself. -/
theorem Table.found_at_own_point {table : Table} {own : Column}
    (told : ∀ row ∈ table.rowIndices, ∀ other ∈ table.rowIndices, table.point other = table.point row →
      own.cell other = own.cell row)
    {row : Nat} (listed : row ∈ table.rowIndices) :
    ((table.lastRowAt? table.groupingColumns (table.point row)).map own.cell).getD .null = own.cell row := by
  have shown : table.point row ∈ table.rowIndices.map (cells table.groupingColumns) :=
    List.mem_map_of_mem listed
  rw [Table.map_cell_lastRowAt? fun other inside same => told row listed other inside same, if_pos shown,
    Option.getD_some]

end CubeQuery
