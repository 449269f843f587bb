import CubeQuery.Measure
import CubeQuery.Proofs.Table.Agreement

/-! Tables of one scope for different measures. They share the columns in front, by which their rows
are told apart, and each measure has one column in all of them. -/

namespace CubeQuery

structure Layout where
  front : List Column
  columnOf : Measure → Column

namespace Layout

/-- The table for some measures. -/
def table (layout : Layout) (measures : List Measure) : Table :=
  ⟨layout.front ++ measures.map layout.columnOf⟩

/-- The measures alone, and none of their rows. -/
def withoutRows (layout : Layout) : Layout :=
  ⟨[], fun measure => { layout.columnOf measure with values := [] }⟩

theorem rowCount_withoutRows (layout : Layout) (measures : List Measure) :
    (layout.withoutRows.table measures).rowCount = 0 := by
  cases measures with
  | nil => rfl
  | cons measure rest => rfl

/-- The columns of these measures stand side by side behind the front. -/
structure Fits (layout : Layout) (measures : List Measure) : Prop where
  formed : (layout.table measures).WellFormed
  grouping : ∀ column ∈ layout.front, column.header.isMeasure = false
  measured : ∀ measure ∈ measures,
    (layout.columnOf measure).header.isMeasure = true ∧ (layout.columnOf measure).name = measure.label

variable {layout : Layout} {measures others : List Measure}

/-- Rows of one point have the same measures. -/
def PointsDetermineRows (layout : Layout) (measures : List Measure) : Prop :=
  ∀ row ∈ (layout.table measures).rowIndices, ∀ other ∈ (layout.table measures).rowIndices,
    Table.cells layout.front row = Table.cells layout.front other →
      ∀ measure ∈ measures, (layout.columnOf measure).cell row = (layout.columnOf measure).cell other

/-- Tables with columns are as long for some measures as for all. -/
theorem Fits.rowCount_eq (fits : layout.Fits measures) (fewer : others ⊆ measures)
    (nonempty : (layout.table others).columns ≠ []) :
    (layout.table others).rowCount = (layout.table measures).rowCount := by
  unfold Table.rowCount
  cases columns_eq : (layout.table others).columns with
  | nil => exact absurd columns_eq nonempty
  | cons first rest =>
    refine fits.formed.lengths first ?_
    have listed : first ∈ (layout.table others).columns := columns_eq ▸ List.mem_cons_self
    rcases List.mem_append.mp listed with front | measure
    · exact List.mem_append_left _ front
    · exact List.mem_append_right _ (List.map_subset _ fewer measure)

theorem Fits.lengths (fits : layout.Fits measures) (fewer : others ⊆ measures) :
    ∀ column ∈ (layout.table others).columns, column.values.length = (layout.table others).rowCount := by
  intro column listed
  rw [fits.rowCount_eq fewer (List.ne_nil_of_mem listed)]
  refine fits.formed.lengths column ?_
  rcases List.mem_append.mp listed with front | measure
  · exact List.mem_append_left _ front
  · exact List.mem_append_right _ (List.map_subset _ fewer measure)

theorem Fits.sublist (fits : layout.Fits measures) (fewer : others.Sublist measures) :
    layout.Fits others where
  formed := by
    refine ⟨fits.lengths fewer.subset, fits.formed.distinct.sublist ?_⟩
    exact ((List.Sublist.refl _).append (fewer.map _)).map _
  grouping := fits.grouping
  measured := fun measure listed => fits.measured measure (fewer.subset listed)

theorem Fits.perm (fits : layout.Fits measures) (same : others.Perm measures) : layout.Fits others where
  formed := by
    refine ⟨fits.lengths same.subset, (List.Perm.nodup_iff ?_).mpr fits.formed.distinct⟩
    exact ((List.Perm.refl _).append (same.map _)).map _
  grouping := fits.grouping
  measured := fun measure listed => fits.measured measure (same.subset listed)

theorem Fits.groupingColumns_eq (fits : layout.Fits measures) :
    (layout.table measures).groupingColumns = layout.front := by
  have measured : ∀ column ∈ measures.map layout.columnOf, column.header.isMeasure = true := by
    intro column listed
    obtain ⟨measure, member, rfl⟩ := List.mem_map.mp listed
    exact (fits.measured measure member).1
  have front : (⟨layout.front⟩ : Table).groupingColumns = layout.front :=
    List.filter_eq_self.mpr fun column listed => by simp [fits.grouping column listed]
  exact (Table.groupingColumns_extend measured).trans front

theorem Fits.groupingNames_eq (fits : layout.Fits measures) :
    (layout.table measures).groupingNames = layout.front.map Column.name := by
  unfold Table.groupingNames
  rw [fits.groupingColumns_eq]

theorem Fits.agrees (fits : layout.Fits measures) (same : others.Perm measures) :
    (layout.table others).Agrees (layout.table measures) where
  found := by
    intro name
    have columns : (layout.table others).columns.Perm (layout.table measures).columns :=
      (List.Perm.refl _).append (same.map _)
    cases found : (layout.table others).find? name with
    | none =>
      have absent := Table.find?_eq_none.mp found
      rw [eq_comm, Table.find?_eq_none]
      exact fun listed => absent ((columns.map Column.name).mem_iff.mpr listed)
    | some column =>
      have listed := columns.subset (Table.mem_of_find? found)
      rw [← Table.name_of_find? found, fits.formed.find?_eq_some listed]
  grouping := by rw [fits.groupingColumns_eq, (fits.perm same).groupingColumns_eq]
  rows := by
    by_cases empty : (layout.table others).columns = []
    · have columns : (layout.table others).columns.Perm (layout.table measures).columns :=
        (List.Perm.refl _).append (same.map _)
      rw [empty, List.nil_perm] at columns
      unfold Table.rowCount
      rw [empty, columns]
    · exact fits.rowCount_eq same.subset empty

/-- Behind no front the measures lose their rows alone. -/
theorem Fits.hollow (fits : layout.Fits measures) (bare : layout.front = []) :
    (layout.withoutRows.table measures).Hollow (layout.table measures) where
  names := by
    intro name
    have names_eq : (layout.withoutRows.table measures).names = (layout.table measures).names := by
      unfold Table.names table
      rw [bare, show layout.withoutRows.front = [] from rfl, List.nil_append, List.nil_append,
        List.map_map, List.map_map]
      rfl
    rw [names_eq]
  grouping := by
    refine List.filter_eq_nil_iff.mpr fun column listed => ?_
    obtain ⟨measure, member, rfl⟩ := List.mem_map.mp listed
    have measured : (layout.withoutRows.columnOf measure).header.isMeasure = true :=
      (fits.measured measure member).1
    simp [measured]
  empty := by
    intro column listed
    obtain ⟨measure, -, rfl⟩ := List.mem_map.mp listed
    rfl

/-- Where there are no rows none are lost. -/
theorem Fits.withoutRows_eq (fits : layout.Fits measures) (bare : layout.front = [])
    (noRows : (layout.table measures).rowCount = 0) :
    layout.withoutRows.table measures = layout.table measures := by
  unfold table at noRows ⊢
  rw [bare, show layout.withoutRows.front = [] from rfl]
  refine congrArg Table.mk (congrArg _ (List.map_congr_left fun measure listed => ?_))
  have length := fits.formed.lengths (layout.columnOf measure)
    (List.mem_append_right _ (List.mem_map_of_mem listed))
  unfold table at length
  have empty : (layout.columnOf measure).values = [] :=
    List.length_eq_zero_iff.mp (length.trans noRows)
  unfold withoutRows
  rw [← empty]

/-! ### Projections -/

theorem Fits.project_measure (fits : layout.Fits measures) {measure : Measure}
    (listed : measure ∈ measures) :
    (layout.table measures).project ((layout.table measures).groupingNames ++ [measure.label]) =
      .ok (layout.table [measure]) := by
  have names_eq : (layout.table measures).groupingNames ++ [measure.label] =
      (layout.table [measure]).columns.map Column.name := by
    rw [fits.groupingNames_eq]
    unfold table
    simp [(fits.measured measure listed).2]
  have included : (layout.table [measure]).columns ⊆ (layout.table measures).columns := by
    unfold table
    exact List.append_subset.mpr ⟨List.subset_append_left _ _, by
      simpa using List.mem_append_right _ (List.mem_map_of_mem listed)⟩
  unfold Table.project
  rw [names_eq, fits.formed.columnsNamed_eq included]
  rfl

end Layout

end CubeQuery
