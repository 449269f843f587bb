import CubeQuery.Proofs.Cache.Fresh

/-! Caches that keep what is stored. While there is room nothing is evicted, so a query that ran to its
end leaves all that it asked of the database, and the tasks of the next run send nothing. -/

namespace CubeQuery

open Steps

variable {engine : Engine} {task : Plan.ScopeTask}

namespace MemoryCache

/-- Room for so many entries more. -/
def HasRoom (cache : MemoryCache) (count : Nat) : Prop := cache.entries.length + count ≤ cache.capacity

variable {cache : MemoryCache} {scope : ScopeKey} {measure : Measure}

theorem contains_iff_mem :
    cache.contains scope measure = true ↔ ∃ entry ∈ cache.entries, entry.key = .of scope measure := by
  constructor
  · intro cached
    obtain ⟨entry, found⟩ := contains_iff.mp cached
    exact ⟨entry, mem_of_find? found⟩
  · rintro ⟨entry, stored, key⟩
    exact contains_of_mem stored key

/-- The oldest entries stay where there is room for one more. -/
theorem entries_insert {entry : CacheEntry} {more : Nat} (room : cache.HasRoom (more + 1)) :
    (cache.insert entry).entries = cache.entries.filter (·.key ≠ entry.key) ++ [entry] := by
  have none : cache.entries.length + 1 - cache.capacity = 0 := by
    unfold HasRoom at room
    omega
  unfold insert evict
  rw [none, List.drop_zero]

theorem hasRoom_insert {entry : CacheEntry} {more : Nat} (room : cache.HasRoom (more + 1)) :
    (cache.insert entry).HasRoom more := by
  have fewer := List.length_filter_le (fun other : CacheEntry => other.key ≠ entry.key) cache.entries
  have capacity : (cache.insert entry).capacity = cache.capacity := rfl
  unfold HasRoom at room ⊢
  rw [entries_insert room, List.length_append, List.length_singleton, capacity]
  omega

theorem contains_insert {entry : CacheEntry} {more : Nat} (room : cache.HasRoom (more + 1)) :
    (cache.insert entry).contains scope measure = true ↔
      entry.key = .of scope measure ∨ cache.contains scope measure = true := by
  rw [contains_iff_mem, contains_iff_mem, entries_insert room]
  by_cases here : entry.key = .of scope measure
  · simp [here]
  · simp only [List.mem_append, List.mem_filter, List.mem_singleton, decide_eq_true_eq, here, false_or]
    constructor
    · rintro ⟨other, ⟨old, -⟩ | rfl, key⟩
      · exact ⟨other, old, key⟩
      · exact absurd key here
    · rintro ⟨other, old, key⟩
      exact ⟨other, .inl ⟨old, fun same => here (same.symm.trans key)⟩, key⟩

/-- What is stored where there is room for it is kept beside all that was there. -/
theorem store_of_room {result : Table} {measures : List Measure} {more : Nat}
    (room : cache.HasRoom (more + measures.length))
    (stored : (cache.store scope result measures).2 = .ok ()) :
    (cache.store scope result measures).1.HasRoom more ∧
      (∀ other measure, cache.contains other measure = true →
        (cache.store scope result measures).1.contains other measure = true) ∧
      ∀ measure ∈ measures, (cache.store scope result measures).1.contains scope measure = true := by
  induction measures generalizing cache with
  | nil => exact ⟨room, fun _ _ cached => cached, nofun⟩
  | cons measure rest ih =>
    unfold store at stored ⊢
    cases projected : result.project (result.groupingNames ++ [measure.label]) with
    | error error =>
      rw [projected] at stored
      cases stored
    | ok table =>
      rw [projected] at stored
      simp only
      have roomLater : (cache.insert ⟨.of scope measure, table⟩).HasRoom (more + rest.length) :=
        hasRoom_insert room
      obtain ⟨left, kept, new⟩ := ih roomLater stored
      refine ⟨left, fun other asked cached => kept other asked ?_, List.forall_mem_cons.mpr ⟨?_, new⟩⟩
      · exact (contains_insert room).mpr (.inr cached)
      · exact kept scope measure ((contains_insert room).mpr (.inl rfl))

/-- Merging finds the measures that are cached. -/
theorem merge_finds {result : Table} {measures : List Measure}
    (cached : ∀ measure ∈ measures, cache.contains scope measure = true) :
    Plan.ScopeTask.found (cache.merge scope result measures).2.2 ≠ .ok none := by
  induction measures generalizing cache result with
  | nil => rintro ⟨⟩
  | cons measure rest ih =>
    obtain ⟨here, later⟩ := List.forall_mem_cons.mp cached
    obtain ⟨entry, found⟩ := contains_iff.mp here
    unfold merge
    cases merged : cache.mergeOne scope result measure with
    | ok extended => exact ih later
    | error error =>
      unfold mergeOne at merged
      rw [found] at merged
      simp only at merged
      generalize (do result.addColumn (← alignedColumn entry.table result measure.label)) = outcome at merged
      cases outcome with
      | ok extended => cases merged
      | error fault =>
        obtain rfl := Except.error.inj merged
        rintro ⟨⟩

end MemoryCache

namespace Plan.ScopeTask

/-- A scope that is cached as a whole is rebuilt, or fails, and is not asked for again. -/
theorem completeRaw_ne_none (asked : task.measures ≠ []) {cache : MemoryCache}
    (cached : task.Cached (.memory cache)) :
    (task.completeRaw (.memory cache) task.measures).2 ≠ .ok none := by
  obtain ⟨first, listed⟩ := List.exists_mem_of_ne_nil _ asked
  obtain ⟨entry, stored, key⟩ := MemoryCache.contains_iff_mem.mp (cached first listed)
  have some : (cache.entries.find? fun entry => entry.key.scope = task.key).isSome = true :=
    List.find?_isSome.mpr ⟨entry, stored, decide_eq_true (congrArg CacheKey.scope key)⟩
  obtain ⟨other, otherFound⟩ := Option.isSome_iff_exists.mp some
  unfold completeRaw QueryCache.rawResult MemoryCache.rawResult
  simp only [otherFound]
  cases other.table.project other.table.groupingNames with
  | error error => rintro ⟨⟩
  | ok raw =>
    have merges : found (cache.merge task.key raw task.measures).2.2 ≠ .ok none :=
      MemoryCache.merge_finds cached
    unfold complete QueryCache.merge
    simp only [Except.mapError, found, List.isEmpty_nil, if_true] at merges ⊢
    split
    · rintro ⟨⟩
    · next missing => exact absurd missing merges
    · rintro ⟨⟩

theorem Cached.mono {before after : MemoryCache} (cached : task.Cached (.memory before))
    (kept : ∀ scope measure, before.contains scope measure = true → after.contains scope measure = true) :
    task.Cached (.memory after) :=
  fun measure listed => kept task.key measure (cached measure listed)

end Plan.ScopeTask

namespace Session

/-! ### The first run -/

variable {cache : MemoryCache} {sent : List String}

/-- A task of which nothing is cached stores all of its measures. -/
theorem runTask_of_room (lacks : (QueryCache.memory cache).Lacks task.key) (asked : task.measures ≠ [])
    {more : Nat} (room : cache.HasRoom (more + task.measures.length)) {table : Table}
    (ran : ((Session.mk (.memory cache) sent).runTask engine task).2 = .ok table) :
    ∃ stored later, ((Session.mk (.memory cache) sent).runTask engine task).1 = ⟨.memory stored, later⟩ ∧
      stored.HasRoom more ∧ task.Cached (.memory stored) ∧
      ∀ scope measure, cache.contains scope measure = true → stored.contains scope measure = true := by
  have fetched_eq : Session.fetch engine ⟨.memory cache, sent⟩ task =
      Session.refetch engine ⟨.memory cache, sent⟩ task := fetch_of_lacks lacks asked
  unfold runTask Plan.ScopeTask.finish at ran ⊢
  obtain ⟨raw, fetched, -⟩ := bind_eq_ok.mp ran
  rw [fetched_eq] at fetched ⊢
  unfold refetch send Plan.ScopeTask.storeAll QueryCache.store at fetched ⊢
  rcases executed : engine.execute sent (task.statementFor task.measures) with ⟨later, answer⟩
  simp only [executed] at fetched ⊢
  cases answer with
  | error error => cases fetched
  | ok answer =>
    simp only at fetched ⊢
    cases outcome : (cache.store task.key answer task.measures).2 with
    | error error =>
      rw [outcome] at fetched
      cases fetched
    | ok =>
      obtain ⟨left, kept, new⟩ := MemoryCache.store_of_room room outcome
      exact ⟨_, later, rfl, left, new, kept⟩

/-- The run: what the tasks stored is there at its end. -/
theorem runTasks_of_room {tasks : List Plan.ScopeTask} (asked : ∀ task ∈ tasks, task.measures ≠ [])
    (distinct : (tasks.map Plan.ScopeTask.key).Nodup)
    (lacks : ∀ task ∈ tasks, (QueryCache.memory cache).Lacks task.key)
    (room : cache.HasRoom (tasks.flatMap Plan.ScopeTask.measures).length) {tables : ScopeTables}
    (ran : Plan.gather tasks ((Session.mk (.memory cache) sent).runTasks engine tasks).2 = .ok tables) :
    ∃ stored later, ((Session.mk (.memory cache) sent).runTasks engine tasks).1 = ⟨.memory stored, later⟩ ∧
      (∀ task ∈ tasks, task.Cached (.memory stored)) ∧
      ∀ scope measure, cache.contains scope measure = true → stored.contains scope measure = true := by
  induction tasks generalizing cache sent tables with
  | nil => exact ⟨cache, sent, rfl, nofun, fun _ _ cached => cached⟩
  | cons first rest ih =>
    obtain ⟨new, distinctRest⟩ := List.nodup_cons.mp distinct
    obtain ⟨lacksFirst, lacksRest⟩ := List.forall_mem_cons.mp lacks
    rw [List.flatMap_cons, List.length_append, Nat.add_comm] at room
    unfold runTasks Plan.gather at ran
    obtain ⟨table, table_eq, ran⟩ := bind_eq_ok.mp ran
    obtain ⟨others, others_eq, -⟩ := bind_eq_ok.mp ran
    have elsewhere : ∀ task ∈ rest, (Session.runTask engine ⟨.memory cache, sent⟩ first).1.cache.Lacks
        task.key := lacks_rest new lacksRest
    obtain ⟨middle, between, first_eq, left, firstCached, keptFirst⟩ :=
      runTask_of_room lacksFirst (asked first List.mem_cons_self) room table_eq
    rw [first_eq] at others_eq elsewhere
    obtain ⟨stored, later, rest_eq, restCached, keptRest⟩ :=
      ih (fun task later => asked task (List.mem_cons_of_mem _ later)) distinctRest elsewhere left others_eq
    refine ⟨stored, later, ?_, List.forall_mem_cons.mpr ⟨firstCached.mono keptRest, restCached⟩,
      fun scope measure cached => keptRest scope measure (keptFirst scope measure cached)⟩
    calc (Session.runTasks engine ⟨.memory cache, sent⟩ (first :: rest)).1
      _ = ((Session.runTask engine ⟨.memory cache, sent⟩ first).1.runTasks engine rest).1 := rfl
      _ = ⟨.memory stored, later⟩ := by rw [first_eq, rest_eq]

/-! ### The next run -/

/-- A task that is cached as a whole sends nothing, and changes no entry. -/
theorem runTask_of_cached (asked : task.measures ≠ []) (cached : task.Cached (.memory cache)) :
    ∃ read, ((Session.mk (.memory cache) sent).runTask engine task).1 = ⟨.memory read, sent⟩ ∧
      read.entries = cache.entries := by
  have lookup : task.lookup (.memory cache) = (task.measures, []) := by
    rw [task.lookup_eq]
    refine Prod.ext (List.filter_eq_self.mpr cached) (List.filter_eq_nil_iff.mpr fun measure listed => ?_)
    simp [cached measure listed]
  have rebuilt := Plan.ScopeTask.completeRaw_ne_none asked cached
  have same : ∃ read, (task.completeRaw (.memory cache) task.measures).1 = .memory read ∧
      read.entries = cache.entries := by
    unfold Plan.ScopeTask.completeRaw
    split
    · exact ⟨cache, rfl, rfl⟩
    · exact ⟨cache, rfl, rfl⟩
    · next raw _ =>
      refine ⟨(cache.merge task.key raw task.measures).1, ?_, MemoryCache.entries_merge ..⟩
      unfold Plan.ScopeTask.complete QueryCache.merge
      simp only [List.isEmpty_nil, if_true]
      split <;> rfl
  obtain ⟨read, read_eq, entries_eq⟩ := same
  refine ⟨read, ?_, entries_eq⟩
  unfold runTask fetch
  rw [lookup]
  simp only [List.isEmpty_nil, if_true, read_eq]
  generalize (task.completeRaw (.memory cache) task.measures).2 = outcome at rebuilt
  match outcome with
  | .error error => rfl
  | .ok (some table) => rfl
  | .ok none => exact absurd rfl rebuilt

theorem runTasks_of_cached {tasks : List Plan.ScopeTask} (asked : ∀ task ∈ tasks, task.measures ≠ [])
    (cached : ∀ task ∈ tasks, task.Cached (.memory cache)) :
    ((Session.mk (.memory cache) sent).runTasks engine tasks).1.sent = sent := by
  induction tasks generalizing cache with
  | nil => rfl
  | cons first rest ih =>
    obtain ⟨firstCached, restCached⟩ := List.forall_mem_cons.mp cached
    obtain ⟨read, first_eq, entries_eq⟩ : ∃ read,
        (Session.runTask engine ⟨.memory cache, sent⟩ first).1 = ⟨.memory read, sent⟩ ∧
          read.entries = cache.entries := runTask_of_cached (asked first List.mem_cons_self) firstCached
    have kept (scope : ScopeKey) (measure : Measure) (before : cache.contains scope measure = true) :
        read.contains scope measure = true := by
      rw [MemoryCache.contains_iff_mem] at before ⊢
      rwa [entries_eq]
    have later := ih (fun task listed => asked task (List.mem_cons_of_mem _ listed))
      fun task listed => (restCached task listed).mono kept
    calc (Session.runTasks engine ⟨.memory cache, sent⟩ (first :: rest)).1.sent
      _ = ((Session.runTask engine ⟨.memory cache, sent⟩ first).1.runTasks engine rest).1.sent := rfl
      _ = sent := by rw [first_eq, later]

end Session

end CubeQuery
