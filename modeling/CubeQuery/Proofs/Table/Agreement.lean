import CubeQuery.Proofs.Table

/-! Tables that stand for each other in two runs: those that agree in everything that is read from
them, and those that have lost their rows. -/

namespace CubeQuery.Table

/-! ### Tables that agree -/

/-- Two tables with the same columns, the measures perhaps in another order. -/
structure Agrees (first second : Table) : Prop where
  found : ∀ name, first.find? name = second.find? name
  grouping : first.groupingColumns = second.groupingColumns
  rows : first.rowCount = second.rowCount

theorem Agrees.refl (table : Table) : table.Agrees table := ⟨fun _ => rfl, rfl, rfl⟩

variable {table follower : Table}

theorem Agrees.names (agrees : follower.Agrees table) (name : String) :
    name ∈ follower.names ↔ name ∈ table.names := by
  rw [← find?_isSome, agrees.found, find?_isSome]

theorem Agrees.column (agrees : follower.Agrees table) : follower.column = table.column := by
  funext name
  unfold Table.column
  rw [agrees.found]

theorem Agrees.columnsNamed (agrees : follower.Agrees table) :
    follower.columnsNamed = table.columnsNamed := by
  funext names
  unfold Table.columnsNamed
  rw [agrees.column]

theorem Agrees.groupingNames (agrees : follower.Agrees table) :
    follower.groupingNames = table.groupingNames := by
  unfold Table.groupingNames
  rw [agrees.grouping]

theorem Agrees.rowIndices (agrees : follower.Agrees table) : follower.rowIndices = table.rowIndices := by
  unfold Table.rowIndices
  rw [agrees.rows]

theorem Agrees.point (agrees : follower.Agrees table) : follower.point = table.point := by
  funext row
  unfold Table.point
  rw [agrees.grouping]

theorem Agrees.lastRowAt? (agrees : follower.Agrees table) :
    follower.lastRowAt? = table.lastRowAt? := by
  funext columns point
  unfold Table.lastRowAt?
  rw [agrees.rowIndices]

theorem Agrees.nonempty (agrees : follower.Agrees table) (nonempty : table.columns ≠ []) :
    follower.columns ≠ [] := by
  obtain ⟨column, listed⟩ := List.exists_mem_of_ne_nil _ nonempty
  intro empty
  have there := (agrees.names column.name).mpr (List.mem_map_of_mem listed)
  unfold Table.names at there
  rw [empty] at there
  cases there

theorem Agrees.extend (agrees : follower.Agrees table) (nonempty : table.columns ≠ []) {column : Column}
    (measure : column.header.isMeasure = true) :
    (follower.extend [column]).Agrees (table.extend [column]) where
  found := by
    intro name
    cases found : table.find? name with
    | some old =>
      rw [find?_extend_old found, find?_extend_old ((agrees.found name).trans found)]
    | none =>
      rw [find?_extend_new found, find?_extend_new ((agrees.found name).trans found)]
  grouping := by
    rw [groupingColumns_extend (by simpa using measure), groupingColumns_extend (by simpa using measure),
      agrees.grouping]
  rows := by rw [rowCount_extend nonempty, rowCount_extend (agrees.nonempty nonempty), agrees.rows]

/-! ### Tables that lost their rows -/

/-- A table with the columns of another that groups by nothing, and no rows. -/
structure Hollow (follower table : Table) : Prop where
  names : ∀ name, name ∈ follower.names ↔ name ∈ table.names
  grouping : follower.groupingColumns = []
  empty : ∀ column ∈ follower.columns, column.values = []

theorem Hollow.rowCount_eq (hollow : follower.Hollow table) : follower.rowCount = 0 := by
  unfold rowCount
  cases columns_eq : follower.columns with
  | nil => rfl
  | cons first rest =>
    exact congrArg List.length (hollow.empty first (columns_eq ▸ List.mem_cons_self))

theorem Hollow.rowIndices_eq (hollow : follower.Hollow table) : follower.rowIndices = [] := by
  unfold rowIndices
  rw [hollow.rowCount_eq]
  rfl

theorem Hollow.groupingNames_eq (hollow : follower.Hollow table) : follower.groupingNames = [] := by
  unfold groupingNames
  rw [hollow.grouping]
  rfl

theorem Hollow.exists_column (hollow : follower.Hollow table) {name : String}
    (listed : name ∈ table.names) :
    ∃ column, follower.column name = .ok column ∧ column.values = [] := by
  obtain ⟨column, found⟩ := Option.isSome_iff_exists.mp (find?_isSome.mpr ((hollow.names name).mpr listed))
  exact ⟨column, column_eq_ok.mpr found, hollow.empty column (mem_of_find? found)⟩

theorem Hollow.extend (hollow : follower.Hollow table) {column lost : Column}
    (name : lost.name = column.name) (measure : lost.header.isMeasure = true) (empty : lost.values = []) :
    (follower.extend [lost]).Hollow (table.extend [column]) where
  names := by
    intro other
    rw [names_extend, names_extend, List.mem_append, List.mem_append, hollow.names, List.map_singleton,
      List.map_singleton, name]
  grouping := by rw [groupingColumns_extend (by simpa using measure), hollow.grouping]
  empty := by
    intro other listed
    rcases List.mem_append.mp listed with old | new
    · exact hollow.empty other old
    · rw [List.mem_singleton.mp new, empty]

end CubeQuery.Table
