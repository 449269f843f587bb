import CubeQuery.Proofs.Steps
import CubeQuery.Table
import Mathlib.Data.List.Nodup

/-! Tables whose columns have one length and names of their own, and what a measure added behind the
other columns leaves unchanged. -/

namespace CubeQuery

theorem Column.map_cell {column : Column} {count : Nat} (length : column.values.length = count) :
    (List.range count).map column.cell = column.values := by
  refine List.ext_getElem (by simp [length]) fun row inside _ => ?_
  have below : row < column.values.length := by simpa [length] using inside
  simp [Column.cell, below]

theorem Column.cell_take {rows : List Nat} {index : Nat} (here : index < rows.length) (column : Column) :
    (column.take rows).cell index = column.cell rows[index] := by
  unfold Column.take Column.cell
  simp [here]

namespace Table

open Steps

/-! ### Well-formed tables -/

theorem repeatedName?_eq_none {seen names : List String} :
    repeatedName? seen names = none ↔ names.Nodup ∧ ∀ name ∈ names, name ∉ seen := by
  induction names generalizing seen with
  | nil => simp [repeatedName?]
  | cons name rest ih =>
    unfold repeatedName?
    by_cases known : name ∈ seen
    · simp [known]
    · rw [if_neg (by simpa using known), ih, List.nodup_cons]
      simp only [List.mem_cons]
      constructor
      · rintro ⟨distinct, apart⟩
        refine ⟨⟨fun listed => (apart name listed) (.inl rfl), distinct⟩, ?_⟩
        rintro other (rfl | later)
        · exact known
        · exact fun isSeen => apart other later (.inr isSeen)
      · rintro ⟨⟨new, distinct⟩, apart⟩
        refine ⟨distinct, fun other later => ?_⟩
        rintro (rfl | isSeen)
        · exact new later
        · exact apart other (.inr later) isSeen

/-- Columns have one length and names of their own. -/
structure WellFormed (table : Table) : Prop where
  lengths : ∀ column ∈ table.columns, column.values.length = table.rowCount
  distinct : table.names.Nodup

/-- Columns of one length are as long as the table. -/
theorem lengths_of_uniform {table : Table} {length : Nat}
    (uniform : ∀ column ∈ table.columns, column.values.length = length) :
    ∀ column ∈ table.columns, column.values.length = table.rowCount := by
  intro column listed
  rw [uniform column listed]
  unfold rowCount
  cases columns_eq : table.columns with
  | nil =>
    rw [columns_eq] at listed
    cases listed
  | cons first rest => exact (uniform first (columns_eq ▸ List.mem_cons_self)).symm

theorem checkColumns_eq_ok {table : Table} : table.checkColumns = .ok () ↔ table.WellFormed := by
  unfold checkColumns
  cases odd : table.columns.find? fun column => column.values.length != table.rowCount with
  | some column =>
    have listed := List.mem_of_find?_eq_some odd
    have differs : column.values.length ≠ table.rowCount := by simpa using List.find?_some odd
    exact ⟨nofun, fun formed => absurd (formed.lengths column listed) differs⟩
  | none =>
    have lengths : ∀ column ∈ table.columns, column.values.length = table.rowCount := by
      simpa using List.find?_eq_none.mp odd
    cases twice : repeatedName? [] table.names with
    | some name =>
      refine ⟨nofun, fun formed => ?_⟩
      rw [repeatedName?_eq_none.mpr ⟨formed.distinct, by simp⟩] at twice
      cases twice
    | none => exact ⟨fun _ => ⟨lengths, (repeatedName?_eq_none.mp twice).1⟩, fun _ => rfl⟩

theorem ofColumns_eq_ok {headers : List Header} {columns : List (List Value)} {table : Table} :
    ofColumns headers columns = .ok table ↔ headers.length = columns.length ∧
      table = ⟨List.zipWith Column.mk headers columns⟩ ∧ table.WellFormed := by
  unfold ofColumns
  by_cases even : headers.length = columns.length
  · rw [if_neg (not_not_intro even)]
    constructor
    · intro made
      obtain ⟨_, checked, made⟩ := bind_eq_ok.mp made
      obtain rfl := Except.ok.inj made
      exact ⟨even, rfl, checkColumns_eq_ok.mp checked⟩
    · rintro ⟨-, rfl, formed⟩
      exact bind_eq_ok.mpr ⟨(), checkColumns_eq_ok.mpr formed, rfl⟩
  · rw [if_pos even]
    exact ⟨nofun, fun made => absurd made.1 even⟩

theorem ofRows_eq_ok {headers : List Header} {rows : List (List Value)} {table : Table} :
    ofRows headers rows = .ok table ↔ (∀ row ∈ rows, row.length = headers.length) ∧
      table = ⟨List.zipWith Column.mk headers ((List.range headers.length).map fun index =>
        rows.map fun row => row[index]?.getD .null)⟩ ∧ table.WellFormed := by
  unfold ofRows
  cases odd : rows.find? fun row => row.length != headers.length with
  | some row =>
    have differs : row.length ≠ headers.length := by simpa using List.find?_some odd
    exact ⟨nofun, fun all => absurd (all.1 row (List.mem_of_find?_eq_some odd)) differs⟩
  | none =>
    have fits : ∀ row ∈ rows, row.length = headers.length := by simpa using List.find?_eq_none.mp odd
    refine ofColumns_eq_ok.trans ⟨fun made => ⟨fits, made.2⟩, fun made => ⟨by simp, made.2⟩⟩

/-! ### Lookups -/

theorem find?_isSome {table : Table} {name : String} :
    (table.find? name).isSome = true ↔ name ∈ table.names := by
  unfold find? names
  rw [List.find?_isSome, List.mem_map]
  simp

theorem find?_eq_none {table : Table} {name : String} : table.find? name = none ↔ name ∉ table.names := by
  rw [← Option.not_isSome_iff_eq_none, find?_isSome]

theorem name_of_find? {table : Table} {name : String} {column : Column}
    (found : table.find? name = some column) : column.name = name := by
  simpa using List.find?_some found

theorem mem_of_find? {table : Table} {name : String} {column : Column}
    (found : table.find? name = some column) : column ∈ table.columns :=
  List.mem_of_find?_eq_some found

theorem WellFormed.find?_eq_some {table : Table} (formed : table.WellFormed) {column : Column}
    (listed : column ∈ table.columns) : table.find? column.name = some column := by
  obtain ⟨found, found_eq⟩ := Option.isSome_iff_exists.mp
    (find?_isSome.mpr (List.mem_map_of_mem listed))
  rw [found_eq]
  exact congrArg some (List.inj_on_of_nodup_map formed.distinct (mem_of_find? found_eq) listed
    (name_of_find? found_eq))

theorem column_eq_ok {table : Table} {name : String} {column : Column} :
    table.column name = .ok column ↔ table.find? name = some column := by
  unfold Table.column
  cases table.find? name <;> simp

theorem columnsNamed_eq_ok {table : Table} {names : List String} {columns : List Column} :
    table.columnsNamed names = .ok columns ↔
      List.Forall₂ (fun name column => table.find? name = some column) names columns := by
  unfold columnsNamed
  rw [mapM_eq_ok]
  simp only [column_eq_ok]

theorem WellFormed.columnsNamed_eq {table : Table} (formed : table.WellFormed) {columns : List Column}
    (listed : columns ⊆ table.columns) :
    table.columnsNamed (columns.map Column.name) = .ok columns := by
  refine columnsNamed_eq_ok.mpr (List.forall₂_map_left_iff.mpr ?_)
  exact List.forall₂_same.mpr fun column member => formed.find?_eq_some (listed member)

/-- Each row is found by its cells, or another of those cells. -/
theorem exists_lastRowAt? {table : Table} (columns : List Column) {row : Nat}
    (listed : row ∈ table.rowIndices) :
    ∃ other ∈ table.rowIndices, table.lastRowAt? columns (cells columns row) = some other ∧
      cells columns other = cells columns row := by
  unfold lastRowAt?
  cases found : table.rowIndices.reverse.find? fun other => cells columns other = cells columns row with
  | none =>
    have differs := List.find?_eq_none.mp found row (List.mem_reverse.mpr listed)
    simp at differs
  | some other =>
    exact ⟨other, List.mem_reverse.mp (List.mem_of_find?_eq_some found), rfl,
      by simpa using List.find?_some found⟩

/-- The cell of the row that is found at a point, if all rows at the point have the same. -/
theorem map_cell_lastRowAt? {table : Table} {columns : List Column} {operand : Column} {point : List Value}
    {value : Value}
    (told : ∀ row ∈ table.rowIndices, cells columns row = point → operand.cell row = value) :
    (table.lastRowAt? columns point).map operand.cell =
      if point ∈ table.rowIndices.map (cells columns) then some value else none := by
  split
  next here =>
    obtain ⟨row, listed, rfl⟩ := List.mem_map.mp here
    obtain ⟨other, otherListed, found, same⟩ := exists_lastRowAt? columns listed
    rw [found, Option.map_some, told other otherListed same]
  next absent =>
    rw [Option.map_eq_none_iff]
    refine List.find?_eq_none.mpr fun row listed => ?_
    simp only [decide_eq_true_eq]
    exact fun same => absent (List.mem_map.mpr ⟨row, List.mem_reverse.mp listed, same⟩)

theorem exists_columnsNamed {table : Table} {names : List String} (included : names ⊆ table.names) :
    ∃ columns, table.columnsNamed names = .ok columns := by
  induction names with
  | nil => exact ⟨[], rfl⟩
  | cons name rest ih =>
    obtain ⟨here, later⟩ := List.cons_subset.mp included
    obtain ⟨column, found⟩ := Option.isSome_iff_exists.mp (find?_isSome.mpr here)
    obtain ⟨columns, rest_eq⟩ := ih later
    exact ⟨column :: columns, columnsNamed_eq_ok.mpr (.cons found (columnsNamed_eq_ok.mp rest_eq))⟩

theorem groupingNames_subset (table : Table) : table.groupingNames ⊆ table.names := by
  intro name listed
  obtain ⟨column, member, rfl⟩ := List.mem_map.mp listed
  exact List.mem_map_of_mem (List.mem_of_mem_filter member)

/-- A table projects to its grouping columns. -/
theorem WellFormed.project_grouping {table : Table} (formed : table.WellFormed) :
    table.project table.groupingNames = .ok ⟨table.groupingColumns⟩ := by
  have among : table.groupingColumns ⊆ table.columns := List.filter_sublist.subset
  unfold project groupingNames
  rw [formed.columnsNamed_eq among]
  rfl

theorem removeColumn_eq_ok {table rest : Table} {name : String} {column : Column} :
    table.removeColumn name = .ok (column, rest) ↔
      table.find? name = some column ∧ rest = ⟨table.columns.eraseP (·.name = name)⟩ := by
  unfold removeColumn
  rw [bind_eq_ok]
  constructor
  · rintro ⟨found, found_eq, pair⟩
    obtain ⟨rfl, rfl⟩ := Prod.mk.inj (Except.ok.inj pair)
    exact ⟨column_eq_ok.mp found_eq, rfl⟩
  · rintro ⟨found, rfl⟩
    exact ⟨column, column_eq_ok.mpr found, rfl⟩

theorem project_eq_ok {table projected : Table} {names : List String} :
    table.project names = .ok projected ↔ table.columnsNamed names = .ok projected.columns := by
  unfold project
  rw [bind_eq_ok]
  constructor
  · rintro ⟨columns, found, made⟩
    obtain rfl := Except.ok.inj made
    exact found
  · exact fun found => ⟨projected.columns, found, rfl⟩

theorem names_of_project {table projected : Table} {names : List String}
    (found : table.project names = .ok projected) : projected.names = names := by
  have same : projected.columns.map Column.name = names.map id := map_eq_of_mapM (project_eq_ok.mp found)
    fun _ _ _ _ named => name_of_find? (column_eq_ok.mp named)
  rwa [List.map_id] at same

/-! ### Chosen rows -/

section

variable {table : Table} {rows : List Nat}

theorem names_takeRows (table : Table) (rows : List Nat) : (table.takeRows rows).names = table.names := by
  unfold takeRows Table.names
  rw [List.map_map]
  rfl

theorem find?_takeRows (table : Table) (rows : List Nat) (name : String) :
    (table.takeRows rows).find? name = (table.find? name).map (Column.take rows) := by
  unfold takeRows Table.find?
  rw [List.find?_map]
  rfl

theorem groupingColumns_takeRows (table : Table) (rows : List Nat) :
    (table.takeRows rows).groupingColumns = table.groupingColumns.map (Column.take rows) := by
  unfold takeRows groupingColumns
  rw [List.filter_map]
  rfl

theorem rowCount_takeRows (nonempty : table.columns ≠ []) : (table.takeRows rows).rowCount = rows.length := by
  unfold rowCount takeRows
  cases columns_eq : table.columns with
  | nil => exact absurd columns_eq nonempty
  | cons first rest => exact List.length_map _

theorem cells_take {index : Nat} (here : index < rows.length) (columns : List Column) :
    cells (columns.map (Column.take rows)) index = cells columns rows[index] := by
  unfold cells
  rw [List.map_map]
  exact List.map_congr_left fun column _ => Column.cell_take here column

theorem rows_takeRows (nonempty : table.columns ≠ []) : (table.takeRows rows).rows = rows.map table.row := by
  unfold Table.rows rowIndices
  rw [rowCount_takeRows nonempty]
  refine List.ext_getElem (by simp) fun index here _ => ?_
  rw [List.getElem_map, List.getElem_map, List.getElem_range]
  exact cells_take (by simpa using here) table.columns

theorem columnsNamed_takeRows {names : List String} {columns : List Column}
    (found : table.columnsNamed names = .ok columns) (rows : List Nat) :
    (table.takeRows rows).columnsNamed names = .ok (columns.map (Column.take rows)) := by
  rw [columnsNamed_eq_ok] at found ⊢
  refine List.forall₂_map_right_iff.mpr (found.imp fun name column here => ?_)
  rw [find?_takeRows, here]
  rfl

end

/-! ### Measures behind the other columns -/

/-- The table with more columns behind its own. -/
def extend (table : Table) (added : List Column) : Table := ⟨table.columns ++ added⟩

variable {table : Table} {added : List Column}

theorem extend_nil (table : Table) : table.extend [] = table := by
  unfold extend
  rw [List.append_nil]

theorem extend_extend (table : Table) (added more : List Column) :
    (table.extend added).extend more = table.extend (added ++ more) := by
  unfold extend
  rw [List.append_assoc]

theorem names_extend (table : Table) (added : List Column) :
    (table.extend added).names = table.names ++ added.map Column.name := List.map_append

theorem find?_extend_old {name : String} {column : Column} (found : table.find? name = some column) :
    (table.extend added).find? name = some column := by
  unfold extend find? at *
  rw [List.find?_append, found]
  rfl

theorem find?_extend_new {name : String} (absent : table.find? name = none) :
    (table.extend added).find? name = added.find? fun column => column.name = name := by
  unfold extend find? at *
  rw [List.find?_append, absent]
  rfl

theorem groupingColumns_extend (measures : ∀ column ∈ added, column.header.isMeasure = true) :
    (table.extend added).groupingColumns = table.groupingColumns := by
  have none : (added.filter fun column => !column.header.isMeasure) = [] := by
    rw [List.filter_eq_nil_iff]
    intro column listed
    simp [measures column listed]
  unfold extend groupingColumns
  rw [List.filter_append, none, List.append_nil]

theorem rowCount_extend (nonempty : table.columns ≠ []) :
    (table.extend added).rowCount = table.rowCount := by
  unfold extend rowCount
  cases columns_eq : table.columns with
  | nil => exact absurd columns_eq nonempty
  | cons column rest => rfl

theorem rowIndices_extend (nonempty : table.columns ≠ []) :
    (table.extend added).rowIndices = table.rowIndices := by
  unfold rowIndices
  rw [rowCount_extend nonempty]

theorem groupingNames_extend (measures : ∀ column ∈ added, column.header.isMeasure = true) :
    (table.extend added).groupingNames = table.groupingNames := by
  unfold groupingNames
  rw [groupingColumns_extend measures]

theorem point_extend (measures : ∀ column ∈ added, column.header.isMeasure = true) (row : Nat) :
    (table.extend added).point row = table.point row := by
  unfold point
  rw [groupingColumns_extend measures]

theorem lastRowAt?_extend (nonempty : table.columns ≠ []) (columns : List Column) :
    (table.extend added).lastRowAt? columns = table.lastRowAt? columns := by
  funext point
  unfold lastRowAt?
  rw [rowIndices_extend nonempty]

theorem columnsNamed_extend {names : List String} {columns : List Column}
    (found : table.columnsNamed names = .ok columns) :
    (table.extend added).columnsNamed names = .ok columns :=
  columnsNamed_eq_ok.mpr ((columnsNamed_eq_ok.mp found).imp fun _ _ => find?_extend_old)

theorem addColumn_eq_ok {column : Column} (new : column.name ∉ table.names)
    (fits : column.values.length = table.rowCount) :
    table.addColumn column = .ok (table.extend [column]) := by
  unfold addColumn insertColumn
  rw [find?_eq_none.mpr new]
  simp [fits, extend, List.insertIdx_length_self]

theorem eq_extend_of_addColumn {column : Column} {next : Table}
    (added : table.addColumn column = .ok next) : next = table.extend [column] := by
  unfold addColumn insertColumn at added
  split at added
  · cases added
  · split at added
    · cases added
    · rw [← Except.ok.inj added]
      simp [extend, List.insertIdx_length_self]

theorem addColumn_inv {column : Column} {next : Table} (nonempty : table.columns ≠ [])
    (added : table.addColumn column = .ok next) :
    next = table.extend [column] ∧ column.name ∉ table.names ∧
      column.values.length = table.rowCount := by
  refine ⟨eq_extend_of_addColumn added, ?_⟩
  unfold addColumn insertColumn at added
  split at added
  · cases added
  · next absent =>
    split at added
    · cases added
    · next fits =>
      exact ⟨fun listed => absent (find?_isSome.mpr listed), by simpa [nonempty] using fits⟩

theorem project_extend {names : List String} {projected : Table}
    (found : table.project names = .ok projected) :
    (table.extend added).project names = .ok projected := by
  unfold project at found ⊢
  obtain ⟨columns, columns_eq, rest⟩ := bind_eq_ok.mp found
  rw [columnsNamed_extend columns_eq]
  exact rest

end Table

end CubeQuery
