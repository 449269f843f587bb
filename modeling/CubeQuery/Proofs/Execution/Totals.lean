import CubeQuery.Execution.Totals
import CubeQuery.Proofs.Sql.GroupingMarker
import CubeQuery.Proofs.Table

/-! Marking totals works on the front of a table: whatever stands behind the columns that are marked,
and is not itself named like a marker, is left as it was. -/

namespace CubeQuery

open Steps

namespace Table

/-! ### Columns behind the others -/

theorem mapColumn_eq_ok {table changed : Table} {name : String} {change : List Value → List Value} :
    table.mapColumn name change = .ok changed ↔ name ∈ table.names ∧
      changed = ⟨changeFirst name (fun column => { column with values := change column.values })
        table.columns⟩ := by
  unfold mapColumn
  rw [bind_eq_ok, ← find?_isSome, Option.isSome_iff_exists]
  constructor
  · rintro ⟨column, found, same⟩
    exact ⟨⟨column, column_eq_ok.mp found⟩, (Except.ok.inj same).symm⟩
  · rintro ⟨⟨column, found⟩, rfl⟩
    exact ⟨column, column_eq_ok.mpr found, rfl⟩

theorem changeFirst_append {name : String} (change : Column → Column) {front : List Column}
    (present : name ∈ front.map Column.name) (rest : List Column) :
    changeFirst name change (front ++ rest) = changeFirst name change front ++ rest := by
  induction front with
  | nil => cases present
  | cons column others ih =>
    rw [List.cons_append]
    unfold changeFirst
    by_cases here : column.name = name
    · rw [if_pos here, if_pos here, List.cons_append]
    · rw [if_neg here, if_neg here, List.cons_append, ih]
      exact (List.mem_cons.mp present).resolve_left fun same => here same.symm

variable {table next : Table} {added : List Column}

theorem removeColumn_extend {name : String} {column : Column}
    (removed : table.removeColumn name = .ok (column, next)) :
    (table.extend added).removeColumn name = .ok (column, next.extend added) := by
  obtain ⟨found, rfl⟩ := removeColumn_eq_ok.mp removed
  refine removeColumn_eq_ok.mpr ⟨find?_extend_old found, ?_⟩
  unfold extend
  rw [List.eraseP_append_left (a := column) (by simpa using name_of_find? found)]
  exact mem_of_find? found

theorem mapColumn_extend {name : String} {change : List Value → List Value}
    (mapped : table.mapColumn name change = .ok next) :
    (table.extend added).mapColumn name change = .ok (next.extend added) := by
  obtain ⟨present, rfl⟩ := mapColumn_eq_ok.mp mapped
  refine mapColumn_eq_ok.mpr ⟨?_, ?_⟩
  · rw [names_extend]
    exact List.mem_append_left _ present
  · unfold extend
    rw [changeFirst_append _ present]

theorem applyMarker_eq_ok {marker : String} :
    table.applyMarker marker = (next, .ok ()) ↔
      ∃ flags rest, table.removeColumn marker = .ok (flags, rest) ∧
        (match GroupingMarker.field? marker with
          | none => next = rest
          | some field => rest.mapColumn field (markFlagged flags.values) = .ok next) := by
  unfold applyMarker
  cases removed : table.removeColumn marker with
  | error error => simp
  | ok pair =>
    obtain ⟨flags, rest⟩ := pair
    cases read : GroupingMarker.field? marker with
    | none => simp [eq_comm]
    | some field => cases mapped : rest.mapColumn field (markFlagged flags.values) <;> simp [mapped]

theorem applyMarker_extend {marker : String} (applied : table.applyMarker marker = (next, .ok ())) :
    (table.extend added).applyMarker marker = (next.extend added, .ok ()) := by
  obtain ⟨flags, rest, removed, changed⟩ := applyMarker_eq_ok.mp applied
  refine applyMarker_eq_ok.mpr ⟨flags, rest.extend added, removeColumn_extend removed, ?_⟩
  cases read : GroupingMarker.field? marker with
  | none =>
    rw [read] at changed
    exact congrArg (extend · added) changed
  | some field =>
    rw [read] at changed
    exact mapColumn_extend changed

theorem applyMarkers_extend {markers : List String} (applied : table.applyMarkers markers = (next, .ok ())) :
    (table.extend added).applyMarkers markers = (next.extend added, .ok ()) := by
  induction markers generalizing table with
  | nil =>
    obtain ⟨rfl, -⟩ := Prod.mk.inj applied
    rfl
  | cons marker rest ih =>
    unfold applyMarkers at applied ⊢
    rcases first : table.applyMarker marker with ⟨middle, outcome⟩
    cases outcome with
    | error error => simp [first] at applied
    | ok =>
      rw [applyMarker_extend first]
      rw [first] at applied
      exact ih applied

theorem markNullTotals_extend {names : List String} (marked : table.markNullTotals names = (next, .ok ())) :
    (table.extend added).markNullTotals names = (next.extend added, .ok ()) := by
  induction names generalizing table with
  | nil =>
    obtain ⟨rfl, -⟩ := Prod.mk.inj marked
    rfl
  | cons name rest ih =>
    unfold markNullTotals at marked ⊢
    cases mapped : table.mapColumn name markNulls with
    | error error => simp [mapped] at marked
    | ok middle =>
      rw [mapColumn_extend mapped]
      simp only [mapped] at marked
      exact ih marked

theorem markTotals_extend {groupingMarkers : Bool} {totals : List String}
    (unmarked : groupingMarkers = true → ∀ column ∈ added, GroupingMarker.isMarker column.name = false)
    (marked : table.markTotals groupingMarkers totals = (next, .ok ())) :
    (table.extend added).markTotals groupingMarkers totals = (next.extend added, .ok ()) := by
  unfold markTotals at marked ⊢
  cases groupingMarkers with
  | false => exact markNullTotals_extend marked
  | true =>
    have none : (added.map Column.name).filter GroupingMarker.isMarker = [] := by
      rw [List.filter_eq_nil_iff]
      intro name listed
      obtain ⟨column, member, rfl⟩ := List.mem_map.mp listed
      rw [unmarked rfl column member]
      exact Bool.false_ne_true
    rw [if_pos rfl] at marked ⊢
    rw [names_extend, List.filter_append, none, List.append_nil]
    exact applyMarkers_extend marked

/-! ### What is marked -/

/-- The columns after totals were marked: some markers are gone, and the others have their headers and
lengths. -/
structure MarkedFrom (before after : Table) : Prop where
  names : after.names.Sublist before.names
  kept : ∀ name ∈ before.names, GroupingMarker.isMarker name = false → name ∈ after.names
  columns : ∀ column ∈ after.columns, ∃ old ∈ before.columns,
    column.header = old.header ∧ column.values.length = old.values.length

theorem MarkedFrom.refl (table : Table) : MarkedFrom table table :=
  ⟨.refl _, fun _ listed _ => listed, fun column listed => ⟨column, listed, rfl, rfl⟩⟩

theorem MarkedFrom.trans {first second third : Table} (start : MarkedFrom first second)
    (rest : MarkedFrom second third) : MarkedFrom first third where
  names := rest.names.trans start.names
  kept := fun name listed unmarked => rest.kept name (start.kept name listed unmarked) unmarked
  columns := by
    intro column listed
    obtain ⟨middle, member, header, length⟩ := rest.columns column listed
    obtain ⟨old, oldMember, oldHeader, oldLength⟩ := start.columns middle member
    exact ⟨old, oldMember, header.trans oldHeader, length.trans oldLength⟩

theorem names_eraseP (columns : List Column) (name : String) :
    (columns.eraseP (·.name = name)).map Column.name = (columns.map Column.name).erase name := by
  induction columns with
  | nil => rfl
  | cons column rest ih =>
    rw [List.map_cons, List.eraseP_cons, List.erase_cons]
    by_cases here : column.name = name
    · simp [here]
    · simp [here, ih]

theorem MarkedFrom.removeColumn {marker : String} {flags : Column} {rest : Table}
    (isMarker : GroupingMarker.isMarker marker = true)
    (removed : table.removeColumn marker = .ok (flags, rest)) : MarkedFrom table rest := by
  obtain ⟨-, rfl⟩ := removeColumn_eq_ok.mp removed
  refine ⟨(List.eraseP_sublist).map _, fun name listed unmarked => ?_, fun column listed =>
    ⟨column, List.mem_of_mem_eraseP listed, rfl, rfl⟩⟩
  have other : name ≠ marker := by
    rintro rfl
    rw [isMarker] at unmarked
    cases unmarked
  unfold Table.names
  rw [names_eraseP]
  exact (List.mem_erase_of_ne other).mpr listed

theorem names_changeFirst (columns : List Column) (name : String) (change : List Value → List Value) :
    (changeFirst name (fun column => { column with values := change column.values }) columns).map
      Column.name = columns.map Column.name := by
  induction columns with
  | nil => rfl
  | cons column rest ih =>
    unfold changeFirst
    split
    · rfl
    · rw [List.map_cons, List.map_cons, ih]

theorem mem_changeFirst {columns : List Column} {name : String} {change : Column → Column}
    {column : Column} (listed : column ∈ changeFirst name change columns) :
    column ∈ columns ∨ ∃ old ∈ columns, column = change old := by
  induction columns with
  | nil => cases listed
  | cons first rest ih =>
    unfold changeFirst at listed
    split at listed
    · rcases List.mem_cons.mp listed with rfl | later
      · exact .inr ⟨first, List.mem_cons_self, rfl⟩
      · exact .inl (List.mem_cons_of_mem _ later)
    · rcases List.mem_cons.mp listed with rfl | later
      · exact .inl List.mem_cons_self
      · rcases ih later with old | ⟨old, member, changed⟩
        · exact .inl (List.mem_cons_of_mem _ old)
        · exact .inr ⟨old, List.mem_cons_of_mem _ member, changed⟩

theorem MarkedFrom.mapColumn {name : String} {change : List Value → List Value}
    (lengths : ∀ values, (change values).length = values.length)
    (mapped : table.mapColumn name change = .ok next) : MarkedFrom table next := by
  obtain ⟨-, rfl⟩ := mapColumn_eq_ok.mp mapped
  have same : (⟨changeFirst name (fun column => { column with values := change column.values })
      table.columns⟩ : Table).names = table.names := names_changeFirst _ _ _
  refine ⟨by rw [same], fun other listed _ => by rwa [same], fun column listed => ?_⟩
  rcases mem_changeFirst listed with old | ⟨old, member, rfl⟩
  · exact ⟨column, old, rfl, rfl⟩
  · exact ⟨old, member, rfl, lengths old.values⟩

theorem length_markFlagged (flags cells : List Value) :
    (markFlagged flags cells).length = cells.length := by
  induction flags generalizing cells with
  | nil => rfl
  | cons flag flags ih =>
    cases cells with
    | nil => rfl
    | cons cell cells => simp [markFlagged, ih]

theorem length_markNulls (cells : List Value) : (markNulls cells).length = cells.length :=
  List.length_map ..

/-- Marking succeeds if the markers and their fields are there. -/
theorem applyMarkers_spec {markers : List String} (distinct : markers.Nodup)
    (present : ∀ marker ∈ markers, GroupingMarker.isMarker marker = true ∧ marker ∈ table.names ∧
      ∀ field, GroupingMarker.field? marker = some field →
        field ∈ table.names ∧ GroupingMarker.isMarker field = false) :
    ∃ next, table.applyMarkers markers = (next, .ok ()) ∧ MarkedFrom table next := by
  induction markers generalizing table with
  | nil => exact ⟨table, rfl, .refl table⟩
  | cons marker rest ih =>
    obtain ⟨isMarker, listed, fields⟩ := present marker List.mem_cons_self
    obtain ⟨new, distinctRest⟩ := List.nodup_cons.mp distinct
    obtain ⟨flags, found⟩ := Option.isSome_iff_exists.mp (find?_isSome.mpr listed)
    have removed := removeColumn_eq_ok.mpr ⟨found, rfl⟩
    have removedFrom := MarkedFrom.removeColumn isMarker removed
    obtain ⟨field, read⟩ := Option.isSome_iff_exists.mp isMarker
    obtain ⟨fieldListed, fieldUnmarked⟩ := fields field read
    obtain ⟨marked, mapped⟩ : ∃ marked, (⟨table.columns.eraseP (·.name = marker)⟩ : Table).mapColumn field
        (markFlagged flags.values) = .ok marked :=
      ⟨_, mapColumn_eq_ok.mpr ⟨removedFrom.kept field fieldListed fieldUnmarked, rfl⟩⟩
    have applied : table.applyMarker marker = (marked, .ok ()) :=
      applyMarker_eq_ok.mpr ⟨flags, _, removed, by rw [read]; exact mapped⟩
    have markedFrom := removedFrom.trans (.mapColumn (length_markFlagged flags.values) mapped)
    have names_eq : marked.names = table.names.erase marker := by
      rw [(mapColumn_eq_ok.mp mapped).2]
      exact (names_changeFirst _ _ _).trans (names_eraseP _ _)
    have still : ∀ other ∈ rest, GroupingMarker.isMarker other = true ∧ other ∈ marked.names ∧
        ∀ field, GroupingMarker.field? other = some field →
          field ∈ marked.names ∧ GroupingMarker.isMarker field = false := by
      intro other member
      obtain ⟨otherMarker, otherListed, otherFields⟩ := present other (List.mem_cons_of_mem _ member)
      refine ⟨otherMarker, ?_, fun otherField otherRead => ?_⟩
      · rw [names_eq]
        refine (List.mem_erase_of_ne ?_).mpr otherListed
        rintro rfl
        exact new member
      · obtain ⟨there, unmarked⟩ := otherFields otherField otherRead
        exact ⟨markedFrom.kept otherField there unmarked, unmarked⟩
    obtain ⟨next, later, laterFrom⟩ := ih distinctRest still
    refine ⟨next, ?_, markedFrom.trans laterFrom⟩
    unfold applyMarkers
    rw [applied]
    exact later

theorem markNullTotals_spec {names : List String} (present : names ⊆ table.names) :
    ∃ next, table.markNullTotals names = (next, .ok ()) ∧ MarkedFrom table next ∧
      next.names = table.names := by
  induction names generalizing table with
  | nil => exact ⟨table, rfl, .refl table, rfl⟩
  | cons name rest ih =>
    obtain ⟨here, later⟩ := List.cons_subset.mp present
    obtain ⟨marked, mapped⟩ : ∃ marked, table.mapColumn name markNulls = .ok marked :=
      ⟨_, mapColumn_eq_ok.mpr ⟨here, rfl⟩⟩
    have names_eq : marked.names = table.names := by
      rw [(mapColumn_eq_ok.mp mapped).2]
      exact names_changeFirst _ _ _
    have still : rest ⊆ marked.names := by rwa [names_eq]
    obtain ⟨next, done, doneFrom, doneNames⟩ := ih still
    refine ⟨next, ?_, (MarkedFrom.mapColumn length_markNulls mapped).trans doneFrom,
      doneNames.trans names_eq⟩
    unfold markNullTotals
    rw [mapped]
    exact done

/-- Totals can be marked if the columns that have them are there and only their markers are named
like markers. -/
theorem markTotals_spec {groupingMarkers : Bool} {totals : List String} (distinct : table.names.Nodup)
    (present : totals ⊆ table.names)
    (markers : groupingMarkers = true → ∀ name ∈ table.names, GroupingMarker.isMarker name = true →
      ∃ field ∈ totals, name = GroupingMarker.label field ∧ GroupingMarker.isMarker field = false) :
    ∃ next, table.markTotals groupingMarkers totals = (next, .ok ()) ∧ MarkedFrom table next ∧
      ∀ name ∈ table.names, (groupingMarkers = true → GroupingMarker.isMarker name = false) →
        name ∈ next.names := by
  unfold markTotals
  cases groupingMarkers with
  | false =>
    obtain ⟨next, marked, markedFrom, names_eq⟩ := markNullTotals_spec present
    exact ⟨next, marked, markedFrom, fun name listed _ => names_eq ▸ listed⟩
  | true =>
    have found : ∀ marker ∈ table.names.filter GroupingMarker.isMarker,
        GroupingMarker.isMarker marker = true ∧ marker ∈ table.names ∧
          ∀ field, GroupingMarker.field? marker = some field →
            field ∈ table.names ∧ GroupingMarker.isMarker field = false := by
      intro marker member
      obtain ⟨listed, isMarker⟩ := List.mem_filter.mp member
      obtain ⟨field, fieldListed, rfl, unmarked⟩ := markers rfl marker listed isMarker
      refine ⟨isMarker, listed, fun found read => ?_⟩
      rw [GroupingMarker.field?_label_eq read]
      exact ⟨present fieldListed, unmarked⟩
    obtain ⟨next, marked, markedFrom⟩ := applyMarkers_spec (distinct.filter _) found
    exact ⟨next, marked, markedFrom, fun name listed apart => markedFrom.kept name listed (apart rfl)⟩

end Table

end CubeQuery
