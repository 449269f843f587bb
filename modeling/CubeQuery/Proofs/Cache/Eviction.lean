import Mathlib.Data.List.Dedup
import Mathlib.Data.List.DropRight
import CubeQuery.Cache
import CubeQuery.Proofs.Execution.Results

/-! What a cache of bounded size still holds after calls that store and clear. Whatever is stored, all but one
of the places go to the pairs that were stored last; the pair in the last place is lost when a pair that needs
no place is stored again. -/

namespace CubeQuery

namespace Recency

/-! ### The ends of lists -/

variable {α : Type}

theorem length_rtake (places : Nat) (items : List α) : (items.rtake places).length = min places items.length := by
  unfold List.rtake
  rw [List.length_drop]
  omega

theorem rtake_suffix (places : Nat) (items : List α) : items.rtake places <:+ items := List.drop_suffix _ _

theorem rtake_of_length_le {places : Nat} {items : List α} (fit : items.length ≤ places) :
    items.rtake places = items := by
  unfold List.rtake
  rw [Nat.sub_eq_zero_of_le fit, List.drop_zero]

/-- A suffix that is long enough has the same end. -/
theorem rtake_of_suffix {places : Nat} {items others : List α} (suffix : items <:+ others)
    (long : min places others.length ≤ items.length) : items.rtake places = others.rtake places := by
  obtain ⟨front, rfl⟩ := suffix
  rw [List.length_append] at long
  rcases Nat.lt_or_ge items.length places with short | enough
  · obtain rfl : front = [] := List.eq_nil_of_length_eq_zero (by omega)
    rfl
  · have split : (front ++ items).length - places = front.length + (items.length - places) := by
      rw [List.length_append]
      omega
    unfold List.rtake
    rw [split, List.drop_length_add_append]

/-! ### The most recent items -/

variable [DecidableEq α]

/-- Items in the order of their last storing, the oldest first, after one more is stored in so many places. -/
def renew (places : Nat) (held : List α) (item : α) : List α :=
  (held.drop (held.length + 1 - places)).filter (· ≠ item) ++ [item]

theorem dedup_concat (items : List α) (item : α) :
    (items ++ [item]).dedup = items.dedup.filter (· ≠ item) ++ [item] := by
  induction items with
  | nil => rfl
  | cons first rest ih =>
    rw [List.cons_append]
    by_cases again : first ∈ rest
    · rw [List.dedup_cons_of_mem (List.mem_append_left _ again), ih, List.dedup_cons_of_mem again]
    · rw [List.dedup_cons_of_notMem again, List.filter_cons]
      by_cases same : first = item
      · rw [List.dedup_cons_of_mem (by simp [same]), ih, if_neg (by simpa using same)]
      · rw [List.dedup_cons_of_notMem (by simp [again, same]), ih, if_pos (by simpa using same)]
        rfl

theorem length_filter_ne {items : List α} (distinct : items.Nodup) (item : α) :
    (items.filter (· ≠ item)).length + (if item ∈ items then 1 else 0) = items.length := by
  have erased : items.filter (· ≠ item) = items.erase item := by
    rw [distinct.erase_eq_filter]
    refine List.filter_congr fun other _ => ?_
    by_cases same : other = item <;> simp [same]
  rw [erased]
  split
  next listed => exact List.length_erase_add_one listed
  next absent => rw [List.erase_of_not_mem absent, Nat.add_zero]

/-- Of the items left by one, the last ones come from the last ones before, with one more of them. -/
theorem rtake_filter_ne {places : Nat} {items : List α} (distinct : items.Nodup) (item : α) :
    ((items.rtake (places + 1)).filter (· ≠ item)).rtake places = (items.filter (· ≠ item)).rtake places := by
  refine rtake_of_suffix ((rtake_suffix _ _).filter _) ?_
  have all := length_filter_ne distinct item
  have last := length_filter_ne ((rtake_suffix (places + 1) items).sublist.nodup distinct) item
  rw [length_rtake] at last
  rcases Nat.lt_or_ge places items.length with many | few
  · split at last <;> omega
  · rw [rtake_of_length_le (by omega)]
    exact Nat.min_le_right _ _

/-! ### Places -/

/-- Whether the last item repeats one of the last ones before it, as many as leave one place free, when there
were more of them than that. -/
def Repeats (places : Nat) (stored : List α) : Prop :=
  ∃ earlier item, stored = earlier ++ [item] ∧ places ≤ earlier.dedup.length ∧
    item ∈ earlier.dedup.rtake (places - 1)

theorem renew_eq {places : Nat} (positive : 0 < places) (held : List α) (item : α) :
    renew places held item = (held.rtake (places - 1)).filter (· ≠ item) ++ [item] := by
  have count : held.length + 1 - places = held.length - (places - 1) := by omega
  unfold renew List.rtake
  rw [count]

theorem length_renew_le {places : Nat} (positive : 0 < places) (held : List α) (item : α) :
    (renew places held item).length ≤ places := by
  have fewer := List.length_filter_le (fun other => decide (other ≠ item)) (held.rtake (places - 1))
  rw [length_rtake] at fewer
  rw [renew_eq positive, List.length_append, List.length_singleton]
  omega

theorem length_foldl_renew_le {places : Nat} (positive : 0 < places) (stored : List α) :
    (stored.foldl (renew places) []).length ≤ places := by
  induction stored using List.reverseRecOn with
  | nil => exact Nat.zero_le _
  | append_singleton earlier item _ =>
    rw [List.foldl_concat]
    exact length_renew_le positive _ _

/-- All places but one always hold what was stored last. -/
theorem rtake_foldl_renew {places : Nat} (positive : 0 < places) (stored : List α) :
    (stored.foldl (renew places) []).rtake (places - 1) = stored.dedup.rtake (places - 1) := by
  induction stored using List.reverseRecOn with
  | nil => rfl
  | append_singleton earlier item ih =>
    rw [List.foldl_concat, renew_eq positive, ih, dedup_concat]
    cases rest : places - 1 with
    | zero => rw [List.rtake_zero, List.rtake_zero]
    | succ more =>
      rw [List.rtake_concat_succ, List.rtake_concat_succ, rtake_filter_ne (List.nodup_dedup _)]

theorem foldl_renew_concat {places : Nat} (positive : 0 < places) (earlier : List α) (item : α) :
    (earlier ++ [item]).foldl (renew places) [] =
      (earlier.dedup.rtake (places - 1)).filter (· ≠ item) ++ [item] := by
  rw [List.foldl_concat, renew_eq positive, rtake_foldl_renew positive]

theorem foldl_renew_suffix {places : Nat} (positive : 0 < places) (stored : List α) :
    stored.foldl (renew places) [] <:+ stored.dedup := by
  induction stored using List.reverseRecOn with
  | nil => exact List.suffix_rfl
  | append_singleton earlier item _ =>
    obtain ⟨front, split⟩ := (rtake_suffix (places - 1) earlier.dedup).filter fun other => decide (other ≠ item)
    rw [foldl_renew_concat positive, dedup_concat, ← split, List.append_assoc]
    exact List.suffix_append _ _

theorem length_dedup_concat (items : List α) (item : α) :
    (items ++ [item]).dedup.length + (if item ∈ items then 1 else 0) = items.dedup.length + 1 := by
  have count := length_filter_ne (List.nodup_dedup items) item
  simp only [List.mem_dedup] at count
  rw [dedup_concat, List.length_append, List.length_singleton]
  omega

/-- Then one place is lost. -/
theorem foldl_renew_of_repeats {places : Nat} (positive : 0 < places) {stored : List α}
    (repeats : Repeats places stored) :
    stored.foldl (renew places) [] = stored.dedup.rtake (places - 1) := by
  obtain ⟨earlier, item, rfl, many, recent⟩ := repeats
  have distinct := List.nodup_dedup earlier
  rw [foldl_renew_concat positive, dedup_concat]
  cases rest : places - 1 with
  | zero =>
    rw [rest, List.rtake_zero] at recent
    cases recent
  | succ more =>
    have last := length_filter_ne ((rtake_suffix (more + 1) earlier.dedup).sublist.nodup distinct) item
    rw [if_pos (rest ▸ recent), length_rtake] at last
    have whole : ((earlier.dedup.rtake (more + 1)).filter (· ≠ item)).rtake more =
        (earlier.dedup.rtake (more + 1)).filter (· ≠ item) := rtake_of_length_le (by omega)
    rw [List.rtake_concat_succ, ← rtake_filter_ne distinct, whole]

/-- All places hold what was stored last, unless the last item is such a repetition. -/
theorem foldl_renew_eq_iff {places : Nat} (positive : 0 < places) (stored : List α) :
    stored.foldl (renew places) [] = stored.dedup.rtake places ↔ ¬Repeats places stored := by
  constructor
  · intro all repeats
    have lengths := congrArg List.length (all.symm.trans (foldl_renew_of_repeats positive repeats))
    obtain ⟨earlier, item, rfl, many, recent⟩ := repeats
    have again : item ∈ earlier := List.mem_dedup.mp ((rtake_suffix _ _).subset recent)
    have count := length_dedup_concat earlier item
    rw [if_pos again] at count
    rw [length_rtake, length_rtake] at lengths
    omega
  · intro new
    induction stored using List.reverseRecOn with
    | nil =>
      rw [List.dedup_nil, List.rtake_nil]
      rfl
    | append_singleton earlier item _ =>
      obtain ⟨more, rfl⟩ : ∃ more, places = more + 1 := ⟨places - 1, by omega⟩
      rw [foldl_renew_concat positive, dedup_concat, List.rtake_concat_succ, Nat.add_sub_cancel]
      refine congrArg (· ++ [item]) ?_
      have suffix := (rtake_suffix more earlier.dedup).filter fun other => decide (other ≠ item)
      have last := length_filter_ne ((rtake_suffix more earlier.dedup).sublist.nodup (List.nodup_dedup _)) item
      have all := length_filter_ne (List.nodup_dedup earlier) item
      rw [length_rtake] at last
      have short : ((earlier.dedup.rtake more).filter (· ≠ item)).length ≤ more := by omega
      rw [← rtake_of_length_le short]
      refine rtake_of_suffix suffix ?_
      by_cases recent : item ∈ earlier.dedup.rtake more
      · have few : earlier.dedup.length ≤ more := by
          by_contra many
          exact new ⟨earlier, item, rfl, by omega, recent⟩
        rw [rtake_of_length_le few]
        exact Nat.min_le_right _ _
      · rw [if_neg recent] at last
        omega

/-- What is lost when an item is stored is the oldest, from full places, and the item is new unless it is such a
repetition. -/
theorem lost_of_renew {places : Nat} (positive : 0 < places) {stored : List α} {item gone : α}
    (held : gone ∈ stored.foldl (renew places) [])
    (lost : gone ∉ (stored ++ [item]).foldl (renew places) []) :
    (stored.foldl (renew places) []).head? = some gone ∧ (stored.foldl (renew places) []).length = places ∧
      (item ∈ stored.foldl (renew places) [] → Repeats places (stored ++ [item])) := by
  have within := length_foldl_renew_le positive stored
  have latest := rtake_foldl_renew positive stored
  have many := (foldl_renew_suffix positive stored).length_le
  rw [List.foldl_concat, renew_eq positive] at lost
  generalize stored.foldl (renew places) [] = before at *
  have other : gone ≠ item := fun same => lost (List.mem_append_right _ (List.mem_singleton.mpr same))
  have dropped : gone ∉ before.rtake (places - 1) := fun kept =>
    lost (List.mem_append_left _ (List.mem_filter.mpr ⟨kept, decide_eq_true other⟩))
  cases before with
  | nil => cases held
  | cons oldest rest =>
    have full : (oldest :: rest).length = places := by
      by_contra short
      exact dropped (by rwa [rtake_of_length_le (by omega)])
    have later : (oldest :: rest).rtake (places - 1) = rest := by
      unfold List.rtake
      rw [full, Nat.sub_sub_self positive]
      rfl
    rw [later] at dropped latest
    obtain rfl : gone = oldest := (List.mem_cons.mp held).resolve_right dropped
    refine ⟨rfl, full, fun again => ⟨stored, item, rfl, full ▸ many, latest ▸ ?_⟩⟩
    exact (List.mem_cons.mp again).resolve_left fun same => other same.symm

end Recency

namespace MemoryCache

open Recency

/-! ### Calls -/

/-- A call that changes which entries a cache has. -/
inductive Change where
  | store (scope : ScopeKey) (result : Table) (measures : List Measure)
  | clear

def Change.run (cache : MemoryCache) : Change → MemoryCache
  | .store scope result measures => (cache.store scope result measures).1
  | .clear => cache.clear

/-- The cache of so many entries after these calls. -/
def after (capacity : Nat) (changes : List Change) : MemoryCache :=
  changes.foldl Change.run (.ofCapacity capacity)

/-- The pairs of a call that stores: all up to the first measure that the result lacks. -/
def storedPairs (scope : ScopeKey) (result : Table) (measures : List Measure) : List CacheKey :=
  (measures.takeWhile fun measure => measure.label ∈ result.names).map (.of scope)

def Change.record (stored : List CacheKey) : Change → List CacheKey
  | .store scope result measures => stored ++ storedPairs scope result measures
  | .clear => []

/-- Each storing of a pair since the cache was last cleared. -/
def storedBy (changes : List Change) : List CacheKey := changes.foldl Change.record []

/-- The pairs that a cache holds, the oldest first. -/
def keys (cache : MemoryCache) : List CacheKey := cache.entries.map CacheEntry.key

/-! ### What calls leave behind -/

theorem keys_insert (cache : MemoryCache) (entry : CacheEntry) :
    (cache.insert entry).keys = renew cache.capacity cache.keys entry.key := by
  unfold insert evict keys renew
  rw [List.map_append, List.length_map, ← List.map_drop, List.filter_map]
  rfl

theorem capacity_store (cache : MemoryCache) (scope : ScopeKey) (result : Table) (measures : List Measure) :
    (cache.store scope result measures).1.capacity = cache.capacity := by
  induction measures generalizing cache with
  | nil => rfl
  | cons measure rest ih =>
    unfold store
    split
    · rfl
    · exact ih _

theorem exists_entryTable_iff {result : Table} {label : String} :
    (∃ table, result.project (result.groupingNames ++ [label]) = .ok table) ↔ label ∈ result.names := by
  constructor
  · rintro ⟨table, projected⟩
    exact Table.subset_of_project projected (List.mem_append_right _ (List.mem_singleton_self _))
  · intro listed
    refine Table.exists_project (List.append_subset.mpr ⟨result.groupingNames_subset, ?_⟩)
    exact List.cons_subset.mpr ⟨listed, List.nil_subset _⟩

theorem keys_store (cache : MemoryCache) (scope : ScopeKey) (result : Table) (measures : List Measure) :
    (cache.store scope result measures).1.keys =
      (storedPairs scope result measures).foldl (renew cache.capacity) cache.keys := by
  induction measures generalizing cache with
  | nil => rfl
  | cons measure rest ih =>
    unfold store storedPairs
    cases projected : result.project (result.groupingNames ++ [measure.label]) with
    | error error =>
      have absent : measure.label ∉ result.names := fun listed => by
        obtain ⟨table, found⟩ := exists_entryTable_iff.mpr listed
        cases projected.symm.trans found
      rw [List.takeWhile_cons_of_neg (by simpa using absent)]
      rfl
    | ok table =>
      have listed : measure.label ∈ result.names := exists_entryTable_iff.mp ⟨table, projected⟩
      rw [List.takeWhile_cons_of_pos (by simpa using listed)]
      dsimp only
      rw [ih, keys_insert]
      rfl

theorem after_concat (capacity : Nat) (changes : List Change) (change : Change) :
    after capacity (changes ++ [change]) = change.run (after capacity changes) := List.foldl_concat ..

theorem storedBy_concat (changes : List Change) (change : Change) :
    storedBy (changes ++ [change]) = change.record (storedBy changes) := List.foldl_concat ..

theorem capacity_after (capacity : Nat) (changes : List Change) :
    (after capacity changes).capacity = max capacity 1 := by
  induction changes using List.reverseRecOn with
  | nil => rfl
  | append_singleton earlier change ih =>
    rw [after_concat, ← ih]
    cases change with
    | store scope result measures => exact capacity_store _ _ _ _
    | clear => rfl

/-- The pairs of a cache come from those stored since it was last cleared, one after the other. -/
theorem keys_after (capacity : Nat) (changes : List Change) :
    (after capacity changes).keys = (storedBy changes).foldl (renew (max capacity 1)) [] := by
  induction changes using List.reverseRecOn with
  | nil => rfl
  | append_singleton earlier change ih =>
    rw [after_concat, storedBy_concat]
    cases change with
    | store scope result measures =>
      show ((after capacity earlier).store scope result measures).1.keys = _
      rw [keys_store, capacity_after, ih]
      exact (List.foldl_append ..).symm
    | clear => rfl

/-- One measure more is stored behind the others, unless one of them or it is lacking. -/
theorem storedPairs_concat (scope : ScopeKey) (result : Table) (done : List Measure) (measure : Measure) :
    storedPairs scope result (done ++ [measure]) = storedPairs scope result done ∨
      storedPairs scope result (done ++ [measure]) = storedPairs scope result done ++ [.of scope measure] := by
  unfold storedPairs
  rw [List.takeWhile_append]
  split
  next all =>
    rw [(List.takeWhile_prefix _).eq_of_length all]
    by_cases listed : measure.label ∈ result.names
    · rw [List.takeWhile_cons_of_pos (by simpa using listed), List.map_append]
      exact .inr rfl
    · rw [List.takeWhile_cons_of_neg (by simpa using listed), List.append_nil]
      exact .inl rfl
  next => exact .inl rfl

/-! ### Bounded eviction -/

/-- A cache never has more pairs than fit. It has those stored last, as many as fit, unless the last storing
repeats a pair that was among them when there were that many, and not as the oldest of them: then it has one
less. Each storing loses the oldest pair of a full cache at most, and to a pair that is there it loses one only
in such a repetition. -/
theorem holds_latest_pairs (capacity : Nat) (changes : List Change) :
    (after capacity changes).keys.length ≤ max capacity 1 ∧
      ((after capacity changes).keys = (storedBy changes).dedup.rtake (max capacity 1) ↔
        ¬Repeats (max capacity 1) (storedBy changes)) ∧
      (Repeats (max capacity 1) (storedBy changes) →
        (after capacity changes).keys = (storedBy changes).dedup.rtake (max capacity 1 - 1)) ∧
      ∀ scope result done measure,
        ∀ gone ∈ (after capacity (changes ++ [.store scope result done])).keys,
          gone ∉ (after capacity (changes ++ [.store scope result (done ++ [measure])])).keys →
            (after capacity (changes ++ [.store scope result done])).keys.head? = some gone ∧
              (after capacity (changes ++ [.store scope result done])).keys.length = max capacity 1 ∧
              (.of scope measure ∈ (after capacity (changes ++ [.store scope result done])).keys →
                Repeats (max capacity 1)
                  (storedBy (changes ++ [.store scope result (done ++ [measure])]))) := by
  have positive : 0 < max capacity 1 := Nat.lt_of_lt_of_le Nat.one_pos (Nat.le_max_right _ _)
  simp only [keys_after]
  refine ⟨length_foldl_renew_le positive _, foldl_renew_eq_iff positive _, foldl_renew_of_repeats positive, ?_⟩
  intro scope result done measure gone held lost
  have before : storedBy (changes ++ [.store scope result done]) =
      storedBy changes ++ storedPairs scope result done := storedBy_concat _ _
  have behind : storedBy (changes ++ [.store scope result (done ++ [measure])]) =
      storedBy changes ++ storedPairs scope result (done ++ [measure]) := storedBy_concat _ _
  rcases storedPairs_concat scope result done measure with nothing | one
  · rw [behind, nothing, ← before] at lost
    exact absurd held lost
  · rw [one, ← List.append_assoc, ← before] at behind
    rw [behind] at lost ⊢
    exact lost_of_renew positive held lost

/-! ### A count of two scopes, stored again for the second -/

def oneRow : Table := ⟨[⟨.measure "n" .long, [.int 1]⟩]⟩

def storeCount (scope : String) : Change := .store ⟨scope⟩ oneRow [.count "n"]

def countKey (scope : String) : CacheKey := .of ⟨scope⟩ (.count "n")

theorem countKey_ne : countKey "north" ≠ countKey "south" := fun same =>
  absurd (ScopeKey.mk.inj (CacheKey.mk.inj same).1) (by decide)

/-- Both counts fit, but the first is lost although the second needs no other place. -/
theorem north_lost_to_south :
    Repeats 2 (storedBy [storeCount "north", storeCount "south", storeCount "south"]) ∧
      (after 2 [storeCount "north", storeCount "south", storeCount "south"]).keys = [countKey "south"] := by
  have once : [countKey "north", countKey "south"].dedup = [countKey "north", countKey "south"] :=
    List.Nodup.dedup (by simp [countKey_ne])
  have all : storedBy [storeCount "north", storeCount "south", storeCount "south"] =
      [countKey "north", countKey "south"] ++ [countKey "south"] := rfl
  have repeats : Repeats 2 (storedBy [storeCount "north", storeCount "south", storeCount "south"]) :=
    ⟨_, _, all, by rw [once]; exact le_rfl, by rw [once]; exact List.mem_singleton_self _⟩
  obtain ⟨-, -, holds, -⟩ := holds_latest_pairs 2 [storeCount "north", storeCount "south", storeCount "south"]
  refine ⟨repeats, (holds repeats).trans ?_⟩
  rw [all, dedup_concat, once]
  simp [countKey_ne, List.rtake]

end MemoryCache

end CubeQuery
