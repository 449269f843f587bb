import CubeQuery.Cache
import CubeQuery.Proofs.Cache.Layout

/-! What the operations of a cache do to its entries, and what they read from entries that hold the
tables of one layout. -/

namespace CubeQuery

open Steps

namespace MemoryCache

/-! ### Entries -/

theorem mem_insert {cache : MemoryCache} {entry other : CacheEntry}
    (listed : other ∈ (cache.insert entry).entries) : other ∈ cache.entries ∨ other = entry := by
  unfold insert evict at listed
  rcases List.mem_append.mp listed with old | new
  · exact .inl (List.mem_of_mem_drop (List.mem_of_mem_filter old))
  · exact .inr (List.mem_singleton.mp new)

/-- Merging counts and changes no entry. -/
theorem entries_merge (cache : MemoryCache) (scope : ScopeKey) (result : Table) (measures : List Measure) :
    (cache.merge scope result measures).1.entries = cache.entries := by
  induction measures generalizing cache result with
  | nil => rfl
  | cons measure rest ih =>
    unfold merge
    split
    · rfl
    · exact ih _ _

/-- What holds of the entries and of each projection of a result holds of the entries after it was
stored. -/
theorem forall_store {P : CacheEntry → Prop} {cache : MemoryCache} {scope : ScopeKey} {result : Table}
    {measures : List Measure} (before : ∀ entry ∈ cache.entries, P entry)
    (new : ∀ measure ∈ measures, ∀ table,
      result.project (result.groupingNames ++ [measure.label]) = .ok table → P ⟨.of scope measure, table⟩) :
    ∀ entry ∈ (cache.store scope result measures).1.entries, P entry := by
  induction measures generalizing cache with
  | nil => exact before
  | cons measure rest ih =>
    unfold store
    split
    · exact before
    · next table projected =>
      refine ih (fun entry listed => ?_) fun other later => new other (List.mem_cons_of_mem _ later)
      rcases mem_insert listed with old | rfl
      · exact before entry old
      · exact new measure List.mem_cons_self table projected

theorem store_eq_ok {cache : MemoryCache} {scope : ScopeKey} {result : Table} {measures : List Measure}
    (projected : ∀ measure ∈ measures, ∃ table,
      result.project (result.groupingNames ++ [measure.label]) = .ok table) :
    (cache.store scope result measures).2 = .ok () := by
  induction measures generalizing cache with
  | nil => rfl
  | cons measure rest ih =>
    obtain ⟨table, found⟩ := projected measure List.mem_cons_self
    unfold store
    rw [found]
    exact ih fun other later => projected other (List.mem_cons_of_mem _ later)

theorem contains_iff {cache : MemoryCache} {scope : ScopeKey} {measure : Measure} :
    cache.contains scope measure = true ↔ ∃ entry, cache.find? (.of scope measure) = some entry := by
  unfold contains
  rw [Option.isSome_iff_exists]

/-- An entry that was stored is found. -/
theorem contains_of_mem {cache : MemoryCache} {scope : ScopeKey} {measure : Measure}
    {entry : CacheEntry} (stored : entry ∈ cache.entries) (key : entry.key = .of scope measure) :
    cache.contains scope measure = true := by
  unfold contains find?
  exact List.find?_isSome.mpr ⟨entry, stored, decide_eq_true key⟩

theorem mem_of_find? {cache : MemoryCache} {key : CacheKey} {entry : CacheEntry}
    (found : cache.find? key = some entry) : entry ∈ cache.entries ∧ entry.key = key :=
  ⟨List.mem_of_find?_eq_some found, by simpa using List.find?_some found⟩

/-! ### Merging -/

/-- Merging adds measures behind the columns of a result. -/
theorem merge_extends (cache : MemoryCache) (scope : ScopeKey) (result : Table) (measures : List Measure) :
    ∃ added, (cache.merge scope result measures).2.1 = result.extend added ∧
      ∀ column ∈ added, column.header.isMeasure = true := by
  induction measures generalizing cache result with
  | nil => exact ⟨[], (Table.extend_nil result).symm, by simp⟩
  | cons measure rest ih =>
    unfold merge
    split
    · exact ⟨[], (Table.extend_nil result).symm, by simp⟩
    · next extended merged =>
      obtain ⟨column, extended_eq, measured⟩ : ∃ column : Column, extended = result.extend [column] ∧
          column.header.isMeasure = true := by
        unfold mergeOne at merged
        split at merged
        · cases merged
        · next entry _ =>
          obtain ⟨column, aligned, added⟩ := bind_eq_ok.mp (mapError_eq_ok.mp merged)
          refine ⟨column, Table.eq_extend_of_addColumn added, ?_⟩
          unfold alignedColumn at aligned
          obtain ⟨points, -, aligned⟩ := bind_eq_ok.mp aligned
          obtain ⟨source, -, aligned⟩ := bind_eq_ok.mp aligned
          obtain rfl := Except.ok.inj aligned
          rfl
      obtain ⟨added, merged_eq, allMeasured⟩ := ih { cache with hits := cache.hits + 1 } extended
      refine ⟨column :: added, ?_, ?_⟩
      · rw [merged_eq, extended_eq, Table.extend_extend]
        rfl
      · exact List.forall_mem_cons.mpr ⟨measured, allMeasured⟩

variable {layout : Layout} {measures : List Measure}

theorem header_eq {column : Column} (measured : column.header.isMeasure = true) :
    Header.measure column.name column.header.type = column.header := by
  obtain ⟨⟨name, type, isMeasure⟩, values⟩ := column
  obtain rfl : isMeasure = true := measured
  rfl

/-- The cached column of a measure is found again where points tell the rows. -/
theorem alignedColumn_eq (fits : layout.Fits measures) {measure : Measure} (listed : measure ∈ measures)
    {others : List Measure} (fewer : others ⊆ measures) (othersFit : layout.Fits others)
    (nonempty : (layout.table others).columns ≠ []) (points : layout.PointsDetermineRows measures) :
    alignedColumn (layout.table [measure]) (layout.table others) measure.label =
      .ok (layout.columnOf measure) := by
  have single : layout.Fits [measure] := fits.sublist (List.singleton_sublist.mpr listed)
  have singleRows : (layout.table [measure]).rowIndices = (layout.table measures).rowIndices := by
    unfold Table.rowIndices
    rw [fits.rowCount_eq (List.cons_subset.mpr ⟨listed, List.nil_subset _⟩) (by simp [Layout.table])]
  have otherRows : (layout.table others).rowIndices = (layout.table measures).rowIndices := by
    unfold Table.rowIndices
    rw [fits.rowCount_eq fewer nonempty]
  obtain ⟨measured, label⟩ := fits.measured measure listed
  have source : (layout.table [measure]).column measure.label = .ok (layout.columnOf measure) := by
    rw [Table.column_eq_ok, ← label]
    exact single.formed.find?_eq_some (by simp [Layout.table])
  have found : ∀ row ∈ (layout.table measures).rowIndices, ∃ other,
      (layout.table [measure]).lastRowAt? layout.front (Table.cells layout.front row) = some other ∧
        (layout.columnOf measure).cell other = (layout.columnOf measure).cell row := by
    intro row inside
    obtain ⟨other, otherInside, found, same⟩ := Table.exists_lastRowAt? layout.front (singleRows ▸ inside)
    exact ⟨other, found, points other (singleRows ▸ otherInside) row inside same measure listed⟩
  have length : (layout.columnOf measure).values.length = (layout.table measures).rowCount :=
    fits.formed.lengths _ (List.mem_append_right _ (List.mem_map_of_mem listed))
  unfold alignedColumn
  rw [single.groupingNames_eq, othersFit.formed.columnsNamed_eq (List.subset_append_left _ _), ok_bind,
    source, ok_bind, single.groupingColumns_eq, otherRows]
  refine congrArg Except.ok (congrArg₂ Column.mk (header_eq measured) (Eq.trans ?_ (Column.map_cell length)))
  refine List.map_congr_left fun row inside => ?_
  obtain ⟨other, otherFound, same⟩ := found row inside
  rw [otherFound]
  exact same

/-- Without rows an aligned column has none either. -/
theorem alignedColumn_of_noRows {cached result : Table} {label : String} {column : Column}
    (front : cached.groupingNames = []) (source : cached.column label = .ok column)
    (noRows : result.rowCount = 0) :
    alignedColumn cached result label = .ok ⟨.measure column.name column.header.type, []⟩ := by
  unfold alignedColumn Table.rowIndices
  rw [front, source, noRows]
  rfl

/-- The entries of a scope hold the tables of its layout. -/
structure Holds (cache : MemoryCache) (scope : ScopeKey) (layout : Layout) (measures : List Measure) :
    Prop where
  measured : ∀ measure ∈ measures, ∀ entry ∈ cache.entries, entry.key = .of scope measure →
    entry.table = layout.table [measure]
  front : ∀ entry ∈ cache.entries, entry.key.scope = scope →
    entry.table.project entry.table.groupingNames = .ok ⟨layout.front⟩

theorem Holds.mergeOne_eq {cache : MemoryCache} {scope : ScopeKey}
    (holds : cache.Holds scope layout measures) {measure : Measure} (listed : measure ∈ measures)
    (cached : cache.contains scope measure = true) (result : Table) :
    cache.mergeOne scope result measure = (do
      result.addColumn (← alignedColumn (layout.table [measure]) result measure.label)).mapError .table := by
  obtain ⟨entry, found⟩ := contains_iff.mp cached
  obtain ⟨stored, key⟩ := mem_of_find? found
  unfold mergeOne
  rw [found, ← holds.measured measure listed entry stored key]

/-- Merging cached measures gives the table with them. -/
theorem Holds.merge_eq {cache : MemoryCache} {scope : ScopeKey} (fits : layout.Fits measures)
    (points : layout.PointsDetermineRows measures) {others cached : List Measure} (same : (others ++ cached).Perm measures)
    (holds : cache.Holds scope layout measures)
    (all : ∀ measure ∈ cached, cache.contains scope measure = true)
    (nonempty : (layout.table others).columns ≠ []) :
    (cache.merge scope (layout.table others) cached).2 = (layout.table (others ++ cached), .ok ()) := by
  induction cached generalizing others cache with
  | nil => simp [merge]
  | cons measure rest ih =>
    have listed : measure ∈ measures := same.subset (by simp)
    have whole : layout.Fits (others ++ measure :: rest) := fits.perm same
    have before : layout.Fits others := whole.sublist (List.sublist_append_left _ _)
    have next : layout.Fits (others ++ [measure]) := whole.sublist (by simp)
    have fewer : others ⊆ measures := fun other member => same.subset (List.mem_append_left _ member)
    have added : (layout.table others).addColumn (layout.columnOf measure) =
        .ok (layout.table (others ++ [measure])) := by
      have new : (layout.columnOf measure).name ∉ (layout.table others).names := by
        have columns_eq : (layout.table (others ++ [measure])).columns =
            (layout.table others).columns ++ [layout.columnOf measure] := by simp [Layout.table]
        have names := next.formed.distinct
        unfold Table.names at names ⊢
        rw [columns_eq, List.map_append] at names
        exact fun again => (List.nodup_append'.mp names).2.2 again (List.mem_singleton_self _)
      have length : (layout.columnOf measure).values.length = (layout.table others).rowCount := by
        rw [fits.rowCount_eq fewer nonempty]
        exact fits.formed.lengths _ (List.mem_append_right _ (List.mem_map_of_mem listed))
      rw [Table.addColumn_eq_ok new length]
      unfold Table.extend Layout.table
      simp
    have one : cache.mergeOne scope (layout.table others) measure =
        .ok (layout.table (others ++ [measure])) := by
      rw [holds.mergeOne_eq listed (all measure List.mem_cons_self),
        alignedColumn_eq fits listed fewer before nonempty points, ok_bind, added]
      rfl
    have moved : others ++ measure :: rest = (others ++ [measure]) ++ rest := by simp
    unfold merge
    rw [one, moved]
    refine ih (moved ▸ same) ⟨holds.measured, holds.front⟩
      (fun other later => all other (List.mem_cons_of_mem _ later)) ?_
    simp [Layout.table]

/-- Merged into a table without columns, the columns of measures have no rows. -/
theorem Holds.merge_withoutRows {cache : MemoryCache} {scope : ScopeKey} (fits : layout.Fits measures)
    (bare : layout.front = []) {others cached : List Measure} (same : (others ++ cached).Perm measures)
    (holds : cache.Holds scope layout measures)
    (all : ∀ measure ∈ cached, cache.contains scope measure = true) :
    (cache.merge scope (layout.withoutRows.table others) cached).2 =
      (layout.withoutRows.table (others ++ cached), .ok ()) := by
  induction cached generalizing others cache with
  | nil => simp [merge]
  | cons measure rest ih =>
    have listed : measure ∈ measures := same.subset (by simp)
    have single : layout.Fits [measure] := fits.sublist (List.singleton_sublist.mpr listed)
    have whole : layout.Fits (others ++ measure :: rest) := fits.perm same
    have next : layout.Fits (others ++ [measure]) := whole.sublist (by simp)
    have noRows := layout.rowCount_withoutRows others
    have new : (layout.withoutRows.columnOf measure).name ∉ (layout.withoutRows.table others).names := by
      have names := next.formed.distinct
      unfold Table.names Layout.table at names
      rw [bare, List.nil_append, List.map_map, List.map_append] at names
      unfold Table.names Layout.table
      rw [show layout.withoutRows.front = [] from rfl, List.nil_append, List.map_map]
      exact fun again => (List.nodup_append'.mp names).2.2 again (List.mem_singleton_self _)
    have aligned : alignedColumn (layout.table [measure]) (layout.withoutRows.table others)
        measure.label = .ok (layout.withoutRows.columnOf measure) := by
      have source : (layout.table [measure]).column measure.label = .ok (layout.columnOf measure) := by
        rw [Table.column_eq_ok, ← (fits.measured measure listed).2]
        exact single.formed.find?_eq_some (by simp [Layout.table])
      have front : (layout.table [measure]).groupingNames = [] := by
        rw [single.groupingNames_eq, bare]
        rfl
      rw [alignedColumn_of_noRows front source noRows, header_eq (fits.measured measure listed).1]
      rfl
    have one : cache.mergeOne scope (layout.withoutRows.table others) measure =
        .ok (layout.withoutRows.table (others ++ [measure])) := by
      rw [holds.mergeOne_eq listed (all measure List.mem_cons_self), aligned, ok_bind,
        Table.addColumn_eq_ok new noRows.symm]
      simp [Table.extend, Layout.table, Except.mapError]
    have moved : others ++ measure :: rest = (others ++ [measure]) ++ rest := by simp
    unfold merge
    rw [one, moved]
    exact ih (moved ▸ same) ⟨holds.measured, holds.front⟩
      fun other later => all other (List.mem_cons_of_mem _ later)

end MemoryCache

end CubeQuery
