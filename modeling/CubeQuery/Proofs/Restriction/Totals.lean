import CubeQuery.Proofs.Execution.MarkedTotals
import CubeQuery.Proofs.Restriction.Selection

/-! Totals are marked row by row: of the rows that are kept, the same cells become totals whether they
are marked among these rows or among all. -/

namespace CubeQuery

open Steps

theorem markFlagged_picked {kept : List Nat} (flags : Column) {column : Column}
    (inside : ∀ row ∈ kept, row < column.values.length) :
    markFlagged (kept.map flags.cell) (kept.map column.cell) = kept.map (Table.flagged flags column).cell := by
  induction kept with
  | nil => rfl
  | cons row rest ih =>
    obtain ⟨here, later⟩ := List.forall_mem_cons.mp inside
    rw [List.map_cons, List.map_cons, List.map_cons, markFlagged, ih later]
    exact congrArg (· :: _) (cell_markFlagged here).symm

theorem markNulls_picked {kept : List Nat} {column : Column}
    (inside : ∀ row ∈ kept, row < column.values.length) :
    markNulls (kept.map column.cell) =
      kept.map ({ column with values := markNulls column.values } : Column).cell := by
  unfold markNulls
  rw [List.map_map]
  refine List.map_congr_left fun row listed => ?_
  simp [Column.cell, inside row listed]

namespace Table

variable {table next : Table} {kept : List Nat} {name : String}

/-- Every column has the rows. -/
def HasRows (table : Table) (kept : List Nat) : Prop :=
  ∀ column ∈ table.columns, ∀ row ∈ kept, row < column.values.length

theorem removeColumn_takeRows {column : Column} (removed : table.removeColumn name = .ok (column, next)) :
    (table.takeRows kept).removeColumn name = .ok (column.take kept, next.takeRows kept) := by
  obtain ⟨found, rfl⟩ := removeColumn_eq_ok.mp removed
  refine removeColumn_eq_ok.mpr ⟨by rw [find?_takeRows, found]; rfl, ?_⟩
  unfold takeRows
  rw [List.eraseP_map]
  rfl

theorem changeFirst_map_take {change changed : List Value → List Value} {columns : List Column}
    (picked : ∀ column ∈ columns, changed (kept.map column.cell) =
      kept.map ({ column with values := change column.values } : Column).cell) :
    changeFirst name (fun column => { column with values := changed column.values })
        (columns.map (Column.take kept)) =
      (changeFirst name (fun column => { column with values := change column.values }) columns).map
        (Column.take kept) := by
  induction columns with
  | nil => rfl
  | cons column rest ih =>
    obtain ⟨here, later⟩ := List.forall_mem_cons.mp picked
    rw [List.map_cons]
    unfold changeFirst
    rw [show (column.take kept).name = column.name from rfl]
    split
    · rw [List.map_cons]
      exact congrArg (· :: _) (congrArg (Column.mk _) here)
    · rw [List.map_cons, ih later]

theorem mapColumn_takeRows {change changed : List Value → List Value}
    (picked : ∀ column ∈ table.columns, changed (kept.map column.cell) =
      kept.map ({ column with values := change column.values } : Column).cell)
    (mapped : table.mapColumn name change = .ok next) :
    (table.takeRows kept).mapColumn name changed = .ok (next.takeRows kept) := by
  obtain ⟨present, rfl⟩ := mapColumn_eq_ok.mp mapped
  refine mapColumn_eq_ok.mpr ⟨by rwa [names_takeRows], ?_⟩
  unfold takeRows
  rw [changeFirst_map_take picked]

theorem HasRows.mapColumn (has : table.HasRows kept) {change : List Value → List Value}
    (lengths : ∀ values, (change values).length = values.length)
    (mapped : table.mapColumn name change = .ok next) : next.HasRows kept := by
  intro column listed row member
  obtain ⟨old, oldListed, -, length⟩ := (MarkedFrom.mapColumn lengths mapped).columns column listed
  rw [length]
  exact has old oldListed row member

theorem applyMarker_takeRows (has : table.HasRows kept)
    (applied : table.applyMarker name = (next, .ok ())) :
    (table.takeRows kept).applyMarker name = (next.takeRows kept, .ok ()) ∧ next.HasRows kept := by
  obtain ⟨flags, rest, removed, changed⟩ := applyMarker_eq_ok.mp applied
  have restHas : rest.HasRows kept := by
    obtain ⟨-, rfl⟩ := removeColumn_eq_ok.mp removed
    exact fun column listed => has column (List.mem_of_mem_eraseP listed)
  cases read : GroupingMarker.field? name with
  | none =>
    rw [read] at changed
    subst changed
    exact ⟨applyMarker_eq_ok.mpr ⟨_, _, removeColumn_takeRows removed, by rw [read]⟩, restHas⟩
  | some field =>
    rw [read] at changed
    refine ⟨applyMarker_eq_ok.mpr ⟨_, _, removeColumn_takeRows removed, ?_⟩,
      restHas.mapColumn (length_markFlagged flags.values) changed⟩
    rw [read]
    exact mapColumn_takeRows (fun column listed => markFlagged_picked flags (restHas column listed)) changed

theorem applyMarkers_takeRows {markers : List String} (has : table.HasRows kept)
    (applied : table.applyMarkers markers = (next, .ok ())) :
    (table.takeRows kept).applyMarkers markers = (next.takeRows kept, .ok ()) := by
  induction markers generalizing table with
  | nil =>
    obtain ⟨rfl, -⟩ := Prod.mk.inj applied
    rfl
  | cons marker rest ih =>
    unfold applyMarkers at applied ⊢
    rcases first : table.applyMarker marker with ⟨middle, outcome⟩
    cases outcome with
    | error error => simp [first] at applied
    | ok =>
      obtain ⟨taken, middleHas⟩ := applyMarker_takeRows has first
      rw [first] at applied
      rw [taken]
      exact ih middleHas applied

theorem markNullTotals_takeRows {names : List String} (has : table.HasRows kept)
    (marked : table.markNullTotals names = (next, .ok ())) :
    (table.takeRows kept).markNullTotals names = (next.takeRows kept, .ok ()) := by
  induction names generalizing table with
  | nil =>
    obtain ⟨rfl, -⟩ := Prod.mk.inj marked
    rfl
  | cons name rest ih =>
    unfold markNullTotals at marked ⊢
    cases mapped : table.mapColumn name markNulls with
    | error error => simp [mapped] at marked
    | ok middle =>
      rw [mapColumn_takeRows (fun column listed => markNulls_picked (has column listed)) mapped]
      simp only [mapped] at marked
      exact ih (has.mapColumn length_markNulls mapped) marked

/-- Totals of the rows that are kept. -/
theorem markTotals_takeRows {groupingMarkers : Bool} {totals : List String} (has : table.HasRows kept)
    (marked : table.markTotals groupingMarkers totals = (next, .ok ())) :
    (table.takeRows kept).markTotals groupingMarkers totals = (next.takeRows kept, .ok ()) := by
  unfold markTotals at marked ⊢
  cases groupingMarkers with
  | false => exact markNullTotals_takeRows has marked
  | true =>
    rw [if_pos rfl] at marked ⊢
    rw [names_takeRows]
    exact applyMarkers_takeRows has marked

end Table

end CubeQuery
