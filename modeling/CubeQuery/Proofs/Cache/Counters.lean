import CubeQuery.Proofs.Cache.Repetition
import CubeQuery.Proofs.Plan.ScopeText

/-! What a task costs that finds room in its cache. A measure of the task is found or missed; what is missed
is asked for in one statement and stored, and is found from then on. So the statement that is sent and the
counters of the cache follow from the pairs of scope and measure that were requested before. -/

namespace CubeQuery

open Steps

variable {engine : Engine} {task : Plan.ScopeTask} {reach : Reach}

/-! ### Counters -/

namespace MemoryCache

variable {cache : MemoryCache} {scope : ScopeKey} {requested : List CacheKey}

/-- The cache after these lookups, if nothing was evicted: each key is stored once, when it is missed. -/
structure Accounts (cache : MemoryCache) (requested : List CacheKey) : Prop where
  stored : ∀ key, key ∈ cache.entries.map CacheEntry.key ↔ key ∈ requested
  distinct : (cache.entries.map CacheEntry.key).Nodup
  misses : cache.misses = cache.entries.length
  lookups : cache.hits + cache.misses = requested.length

theorem accounts_ofCapacity (capacity : Nat) : (ofCapacity capacity).Accounts [] :=
  ⟨fun _ => .rfl, .nil, rfl, rfl⟩

theorem Accounts.perm {other : List CacheKey} (accounts : cache.Accounts requested)
    (same : requested.Perm other) : cache.Accounts other :=
  { accounts with
    stored := fun key => (accounts.stored key).trans same.mem_iff
    lookups := accounts.lookups.trans same.length_eq }

theorem Accounts.contains_iff (accounts : cache.Accounts requested) {measure : Measure} :
    cache.contains scope measure = true ↔ CacheKey.of scope measure ∈ requested := by
  rw [contains_iff_mem, ← accounts.stored, List.mem_map]

/-- What is stored already is found. -/
theorem Accounts.hit (accounts : cache.Accounts requested) {found : List CacheKey} (known : found ⊆ requested) :
    { cache with hits := cache.hits + found.length }.Accounts (requested ++ found) where
  stored := by
    intro key
    rw [accounts.stored, List.mem_append]
    exact ⟨.inl, fun either => either.elim id fun again => known again⟩
  distinct := accounts.distinct
  misses := accounts.misses
  lookups := by
    have before := accounts.lookups
    simp only [List.length_append]
    omega

/-- What is not stored is missed once. -/
theorem Accounts.insert (accounts : cache.Accounts requested) {entry : CacheEntry} (new : entry.key ∉ requested)
    {more : Nat} (room : cache.HasRoom (more + 1)) : (cache.insert entry).Accounts (requested ++ [entry.key]) := by
  have absent : entry.key ∉ cache.entries.map CacheEntry.key := (accounts.stored _).not.mpr new
  have others : cache.entries.filter (·.key ≠ entry.key) = cache.entries :=
    List.filter_eq_self.mpr fun other listed =>
      decide_eq_true fun same => absent (same ▸ List.mem_map_of_mem listed)
  have entries_eq : (cache.insert entry).entries = cache.entries ++ [entry] := by
    rw [entries_insert room, others]
  have misses_eq : (cache.insert entry).misses = cache.misses + 1 := rfl
  have hits_eq : (cache.insert entry).hits = cache.hits := rfl
  have before := accounts.lookups
  constructor
  · intro key
    rw [entries_eq, List.map_append, List.mem_append, List.mem_append, accounts.stored, List.map_singleton]
  · rw [entries_eq, List.map_append]
    exact accounts.distinct.append (List.nodup_singleton _)
      (List.disjoint_singleton.mpr absent)
  · rw [entries_eq, misses_eq, accounts.misses, List.length_append, List.length_singleton]
  · rw [misses_eq, hits_eq, List.length_append, List.length_singleton]
    omega

/-- The induction is on the measures that are stored. -/
theorem Accounts.store (accounts : cache.Accounts requested) {result : Table} {measures : List Measure}
    (new : ∀ measure ∈ measures, CacheKey.of scope measure ∉ requested)
    (distinct : (measures.map (CacheKey.of scope)).Nodup) (room : cache.HasRoom measures.length)
    (stored : (cache.store scope result measures).2 = .ok ()) :
    (cache.store scope result measures).1.Accounts (requested ++ measures.map (.of scope)) ∧
      (cache.store scope result measures).1.capacity = cache.capacity := by
  induction measures generalizing cache requested with
  | nil => exact ⟨accounts.perm (by simp), rfl⟩
  | cons measure rest ih =>
    obtain ⟨newHere, newLater⟩ := List.forall_mem_cons.mp new
    rw [List.map_cons] at distinct ⊢
    obtain ⟨apart, distinctRest⟩ := List.nodup_cons.mp distinct
    unfold MemoryCache.store at stored ⊢
    cases projected : result.project (result.groupingNames ++ [measure.label]) with
    | error error =>
      rw [projected] at stored
      cases stored
    | ok table =>
      rw [projected] at stored
      have inserted : (cache.insert ⟨.of scope measure, table⟩).Accounts (requested ++ [.of scope measure]) :=
        accounts.insert newHere room
      have newAgain : ∀ later ∈ rest, CacheKey.of scope later ∉ requested ++ [.of scope measure] := by
        intro later listed again
        rcases List.mem_append.mp again with before | here
        · exact newLater later listed before
        · exact apart (List.mem_singleton.mp here ▸ List.mem_map_of_mem listed)
      obtain ⟨accountsRest, capacity⟩ := ih inserted newAgain distinctRest (hasRoom_insert room) stored
      rw [List.append_assoc] at accountsRest
      exact ⟨accountsRest, capacity⟩

/-- A merge that goes through counts a hit for each measure, and changes nothing else. -/
theorem merge_counts {result : Table} {measures : List Measure}
    (merged : (cache.merge scope result measures).2.2 = .ok ()) :
    (cache.merge scope result measures).1 = { cache with hits := cache.hits + measures.length } := by
  induction measures generalizing cache result with
  | nil => rfl
  | cons measure rest ih =>
    unfold merge at merged ⊢
    cases one : cache.mergeOne scope result measure with
    | error error =>
      rw [one] at merged
      cases merged
    | ok extended =>
      rw [one] at merged
      simp only at merged ⊢
      rw [ih merged, List.length_cons, Nat.add_right_comm, Nat.add_assoc]

end MemoryCache

/-! ### Pairs of scope and measure -/

theorem card_toFinset_mono {pairs others : List (Scope × Measure)} (fewer : pairs ⊆ others) :
    pairs.toFinset.card ≤ others.toFinset.card :=
  Finset.card_le_card fun _ listed => List.mem_toFinset.mpr (fewer (List.mem_toFinset.mp listed))

/-- The key under which a measure is cached for a scope. -/
def pairKey (pair : Scope × Measure) : CacheKey := .of pair.1.key pair.2

/-- What a statement asks of the database for one scope. -/
structure Ask where
  scope : Scope
  measures : List Measure

namespace Ask

def pairs (ask : Ask) : List (Scope × Measure) := ask.measures.map (ask.scope, ·)

/-- The text of the statement. -/
def sql (engine : Engine) (ask : Ask) : Except QueryError String := do
  engine.sql (← ask.scope.lower engine.datastore ask.measures)

end Ask

namespace Plan.ScopeTask

def pairs (task : ScopeTask) : List (Scope × Measure) := task.measures.map (task.scope, ·)

/-- The measures of a task that were not requested before. -/
def newMeasures (task : ScopeTask) (requested : List (Scope × Measure)) : List Measure :=
  task.measures.filter fun measure => (task.scope, measure) ∉ requested

/-- The statement for them, if there are any. -/
def ask? (task : ScopeTask) (requested : List (Scope × Measure)) : Option Ask :=
  if task.newMeasures requested = [] then none else some ⟨task.scope, task.newMeasures requested⟩

end Plan.ScopeTask

theorem Plan.ScopeTask.ask?_eq_none_iff {requested : List (Scope × Measure)} :
    task.ask? requested = none ↔ ∀ measure ∈ task.measures, (task.scope, measure) ∈ requested := by
  unfold ask? newMeasures
  simp

theorem Plan.ScopeTask.filterMap_ask? (requested : List (Scope × Measure)) :
    [task].filterMap (·.ask? requested) = (task.ask? requested).toList := by
  rw [List.filterMap_cons]
  cases task.ask? requested <;> rfl

theorem Plan.ScopeTask.pairs_ask? (task : Plan.ScopeTask) (requested : List (Scope × Measure)) :
    (task.ask? requested).toList.flatMap Ask.pairs = task.pairs.filter (· ∉ requested) := by
  unfold pairs
  rw [List.filter_map]
  change _ = (task.newMeasures requested).map (task.scope, ·)
  unfold ask?
  by_cases old : task.newMeasures requested = []
  · rw [if_pos old, old]
    rfl
  · rw [if_neg old]
    exact List.flatMap_singleton _ _

/-- What is requested in other scopes makes nothing old. -/
theorem Plan.ScopeTask.ask?_append {requested others : List (Scope × Measure)}
    (elsewhere : ∀ pair ∈ others, pair.1 ≠ task.scope) : task.ask? (requested ++ others) = task.ask? requested := by
  have same : task.newMeasures (requested ++ others) = task.newMeasures requested := by
    refine List.filter_congr fun measure _ => ?_
    have other : (task.scope, measure) ∉ others := fun listed => elsewhere _ listed rfl
    simp [other]
  unfold ask?
  rw [same]

/-! ### Keys -/

/-- Pairs of a scope and a measure that came up. -/
def Reach.Covers (reach : Reach) (pairs : List (Scope × Measure)) : Prop :=
  ∀ pair ∈ pairs, reach.scopes pair.1 ∧ reach.measures pair.2

theorem Reach.covers_nil (reach : Reach) : reach.Covers [] :=
  fun _ listed => absurd listed List.not_mem_nil

theorem Reach.Covers.append {pairs others : List (Scope × Measure)} (covers : reach.Covers pairs)
    (more : reach.Covers others) : reach.Covers (pairs ++ others) :=
  fun pair listed => (List.mem_append.mp listed).elim (covers pair) (more pair)

/-- Where keys tell scopes and measures apart, they tell pairs apart. -/
theorem Reach.KeysTellApart.pairKey_mem_iff (apart : reach.KeysTellApart) {pairs : List (Scope × Measure)}
    (covers : reach.Covers pairs) {pair : Scope × Measure} (known : reach.Covers [pair]) :
    pairKey pair ∈ pairs.map pairKey ↔ pair ∈ pairs := by
  refine ⟨fun listed => ?_, List.mem_map_of_mem⟩
  obtain ⟨other, otherListed, same⟩ := List.mem_map.mp listed
  obtain ⟨scopeKey, measureKey⟩ := CacheKey.mk.inj same
  obtain ⟨scopeKnown, measureKnown⟩ := known pair (List.mem_singleton_self pair)
  obtain ⟨otherScope, otherMeasure⟩ := covers other otherListed
  have same : other = pair := Prod.ext (apart.scopes otherScope scopeKnown scopeKey)
    (apart.measures otherMeasure measureKnown measureKey)
  exact same ▸ otherListed

/-- A measure that is told by its text. -/
structure Measure.HasText (measure : Measure) : Prop where
  writable : measure.isWritable = true
  finite : ∀ x ∈ measure.toJson.floats, x.isFinite = true

theorem Measure.key_eq_iff {one other : Measure} (told : one.HasText) (otherTold : other.HasText)
    (apart : Sha256.TellsApart one.toJson.text other.toJson.text) : one.key = other.key ↔ one = other := by
  refine ⟨fun same => ?_, fun same => same ▸ rfl⟩
  have texts := Json.text_injective one.isWritten_toJson other.isWritten_toJson told.finite otherTold.finite
    (apart same)
  have read := Measure.ofJson?_toJson told.writable
  rw [texts, Measure.ofJson?_toJson otherTold.writable] at read
  exact (Option.some.inj read).symm

/-- Where digests collide for no two texts of a run, keys tell its scopes and measures apart. -/
theorem Reach.keysTellApart_of_texts (scopes : ∀ scope, reach.scopes scope → scope.HasText)
    (measures : ∀ measure, reach.measures measure → measure.HasText)
    (scopeTexts : ∀ one other, reach.scopes one → reach.scopes other →
      Sha256.TellsApart one.toJson.text other.toJson.text)
    (measureTexts : ∀ one other, reach.measures one → reach.measures other →
      Sha256.TellsApart one.toJson.text other.toJson.text) : reach.KeysTellApart where
  scopes known otherKnown :=
    (Scope.key_eq_iff (scopes _ known) (scopes _ otherKnown) (scopeTexts _ _ known otherKnown)).mp
  measures known otherKnown :=
    (Measure.key_eq_iff (measures _ known) (measures _ otherKnown) (measureTexts _ _ known otherKnown)).mp

/-- The pairs of a compiled task have keys of their own. -/
theorem Plan.ScopeTask.Compiled.keys_nodup (compiled : task.Compiled engine) (apart : reach.KeysTellApart)
    (covers : reach.Covers task.pairs) : (task.measures.map (CacheKey.of task.key)).Nodup := by
  have known {measure : Measure} (listed : measure ∈ task.measures) : reach.measures measure :=
    (covers (task.scope, measure) (List.mem_map_of_mem listed)).2
  refine List.Nodup.map_on (fun measure listed other otherListed same => ?_) (List.Nodup.of_map _ compiled.labels)
  exact apart.measures (known listed) (known otherListed) (CacheKey.mk.inj same).2

/-! ### The task of a request -/

namespace Plan.ScopeTask

theorem map_pairKey_pairs (keyed : task.key = task.scope.key) :
    task.pairs.map pairKey = task.measures.map (CacheKey.of task.key) := by
  unfold pairs
  rw [List.map_map, keyed]
  rfl

/-- What is missing in the cache is what was not requested before. -/
theorem missing_eq (compiled : task.Compiled engine) (apart : reach.KeysTellApart)
    (covers : reach.Covers task.pairs) {requested : List (Scope × Measure)} (known : reach.Covers requested)
    {cache : MemoryCache} (accounts : cache.Accounts (requested.map pairKey)) :
    (task.measures.filter fun measure => !cache.contains task.key measure) = task.newMeasures requested := by
  refine List.filter_congr fun measure listed => ?_
  have here : reach.Covers [(task.scope, measure)] :=
    List.forall_mem_singleton.mpr (covers _ (List.mem_map_of_mem listed))
  have key_eq : CacheKey.of task.key measure = pairKey (task.scope, measure) := by
    unfold pairKey
    rw [compiled.keyed]
  have found : cache.contains task.key measure = true ↔ (task.scope, measure) ∈ requested := by
    rw [accounts.contains_iff, key_eq, apart.pairKey_mem_iff known here]
  by_cases before : (task.scope, measure) ∈ requested
  · simp [before, found.mpr before]
  · simp [before, Bool.eq_false_iff.mpr (found.not.mpr before)]

/-- A completion that goes through counts a hit for each cached measure, then stores the others. -/
theorem complete_counts {cache : MemoryCache} {cached missing : List Measure} {answer table : Table}
    (completed : (task.complete (.memory cache) cached missing answer).2 = .ok (some table)) :
    ∃ merged, ({ cache with hits := cache.hits + cached.length }.store task.key merged missing).2 = .ok () ∧
      (task.complete (.memory cache) cached missing answer).1 =
        .memory ({ cache with hits := cache.hits + cached.length }.store task.key merged missing).1 := by
  have counts : (cache.merge task.key answer cached).2.2 = .ok () → _ := MemoryCache.merge_counts
  unfold complete QueryCache.merge at completed ⊢
  simp only at completed ⊢
  generalize cache.merge task.key answer cached = result at completed counts ⊢
  obtain ⟨read, merged, outcome⟩ := result
  refine ⟨merged, ?_⟩
  cases outcome with
  | error error =>
    by_cases gone : isMissing error = true <;> simp [found, gone] at completed
  | ok =>
    obtain rfl := counts rfl
    simp only [found] at completed ⊢
    split at completed
    · next empty =>
      obtain rfl := List.isEmpty_iff.mp empty
      exact ⟨rfl, rfl⟩
    · next nonempty =>
      rw [if_neg nonempty]
      unfold QueryCache.store at completed ⊢
      simp only at completed ⊢
      generalize MemoryCache.store _ task.key merged missing = stored at completed ⊢
      obtain ⟨after, outcome⟩ := stored
      cases outcome with
      | error error => cases completed
      | ok => exact ⟨rfl, trivial⟩

/-- A merge of what is cached goes through or fails for good. -/
theorem complete_ne_none {cache : MemoryCache} {cached missing : List Measure} {answer : Table}
    (all : ∀ measure ∈ cached, cache.contains task.key measure = true) :
    (task.complete (.memory cache) cached missing answer).2 ≠ .ok none := by
  have merges : found (cache.merge task.key answer cached).2.2 ≠ .ok none := MemoryCache.merge_finds all
  unfold complete QueryCache.merge
  simp only
  split
  · rintro ⟨⟩
  · next missing => exact absurd missing merges
  · split
    · rintro ⟨⟩
    · unfold QueryCache.store
      simp only
      generalize (MemoryCache.store _ _ _ _).2 = outcome
      cases outcome <;> rintro ⟨⟩

end Plan.ScopeTask

namespace Plan.ScopeTask

variable {cache : MemoryCache} {requested : List (Scope × Measure)}

/-- There is room for what a task misses where there is for all that was requested. -/
theorem hasRoom_missing (compiled : task.Compiled engine) (apart : reach.KeysTellApart)
    (covers : reach.Covers task.pairs) (accounts : cache.Accounts (requested.map pairKey))
    (room : (requested ++ task.pairs).toFinset.card ≤ cache.capacity) :
    cache.HasRoom (task.measures.filter fun measure => !cache.contains task.key measure).length := by
  have keys := task.map_pairKey_pairs compiled.keyed
  generalize missing_eq : (task.measures.filter fun measure => !cache.contains task.key measure) = missing
  have distinct : (cache.entries.map CacheEntry.key ++ missing.map (CacheKey.of task.key)).Nodup := by
    refine accounts.distinct.append ?_ fun key stored new => ?_
    · exact (compiled.keys_nodup apart covers).sublist (missing_eq ▸ List.filter_sublist.map _)
    · obtain ⟨measure, listed, rfl⟩ := List.mem_map.mp new
      rw [← missing_eq, List.mem_filter] at listed
      have found : cache.contains task.key measure = true :=
        accounts.contains_iff.mpr ((accounts.stored _).mp stored)
      simp [found] at listed
  have among : (cache.entries.map CacheEntry.key ++ missing.map (CacheKey.of task.key)).toFinset ⊆
      (requested ++ task.pairs).toFinset.image pairKey := by
    intro key listed
    have all : key ∈ (requested ++ task.pairs).map pairKey := by
      rw [List.map_append, keys]
      rcases List.mem_append.mp (List.mem_toFinset.mp listed) with stored | new
      · exact List.mem_append_left _ ((accounts.stored key).mp stored)
      · exact List.mem_append_right _ (List.map_subset _ (missing_eq ▸ List.filter_subset_self _) new)
    obtain ⟨pair, member, rfl⟩ := List.mem_map.mp all
    exact Finset.mem_image_of_mem _ (List.mem_toFinset.mpr member)
  unfold MemoryCache.HasRoom
  calc cache.entries.length + missing.length
    _ = (cache.entries.map CacheEntry.key ++ missing.map (CacheKey.of task.key)).length := by simp
    _ = (cache.entries.map CacheEntry.key ++ missing.map (CacheKey.of task.key)).toFinset.card :=
      (List.toFinset_card_of_nodup distinct).symm
    _ ≤ ((requested ++ task.pairs).toFinset.image pairKey).card := Finset.card_le_card among
    _ ≤ (requested ++ task.pairs).toFinset.card := Finset.card_image_le
    _ ≤ cache.capacity := room

/-- A completion that goes through accounts for all pairs of the task. -/
theorem complete_accounts (compiled : task.Compiled engine) (apart : reach.KeysTellApart)
    (covers : reach.Covers task.pairs) (accounts : cache.Accounts (requested.map pairKey))
    (room : (requested ++ task.pairs).toFinset.card ≤ cache.capacity) {cached missing : List Measure}
    (found : cached = task.measures.filter fun measure => cache.contains task.key measure)
    (missed : missing = task.measures.filter fun measure => !cache.contains task.key measure)
    {answer table : Table}
    (completed : (task.complete (.memory cache) cached missing answer).2 = .ok (some table)) :
    ∃ after, (task.complete (.memory cache) cached missing answer).1 = .memory after ∧
      after.capacity = cache.capacity ∧ after.Accounts ((requested ++ task.pairs).map pairKey) := by
  obtain ⟨merged, stored, after_eq⟩ := task.complete_counts completed
  have known : cached.map (CacheKey.of task.key) ⊆ requested.map pairKey := by
    rw [found]
    intro key listed
    obtain ⟨measure, member, rfl⟩ := List.mem_map.mp listed
    exact accounts.contains_iff.mp (List.mem_filter.mp member).2
  have hits := accounts.hit known
  rw [List.length_map] at hits
  have new : ∀ measure ∈ missing,
      CacheKey.of task.key measure ∉ requested.map pairKey ++ cached.map (CacheKey.of task.key) := by
    intro measure listed again
    have before : CacheKey.of task.key measure ∈ requested.map pairKey :=
      (List.mem_append.mp again).elim id fun here => known here
    rw [missed, List.mem_filter] at listed
    simp [accounts.contains_iff.mpr before] at listed
  have distinct : (missing.map (CacheKey.of task.key)).Nodup :=
    (compiled.keys_nodup apart covers).sublist (missed ▸ List.filter_sublist.map _)
  have fits : cache.HasRoom missing.length := missed ▸ hasRoom_missing compiled apart covers accounts room
  obtain ⟨stores, capacity⟩ := hits.store new distinct fits stored
  refine ⟨_, after_eq, capacity, stores.perm ?_⟩
  rw [List.map_append, task.map_pairKey_pairs compiled.keyed, List.append_assoc, ← List.map_append]
  refine List.Perm.append_left _ (List.Perm.map _ ?_)
  rw [found, missed]
  exact List.filter_append_perm _ _

end Plan.ScopeTask

/-- The text of the statement for some measures of a task. -/
theorem Plan.ScopeTask.Compiled.exists_sql (compiled : task.Compiled engine) (wanted : Measure → Bool) :
    ∃ text, engine.sql (task.statementFor (task.measures.filter wanted)) = .ok text ∧
      Ask.sql engine ⟨task.scope, task.measures.filter wanted⟩ = .ok text := by
  obtain ⟨whole, written⟩ := compiled.written
  have fewer : ((task.measures.filter wanted).map task.typed).Sublist task.statement.measures := by
    rw [compiled.typed_spec.1]
    exact List.filter_sublist.map _
  obtain ⟨text, text_eq⟩ := Engine.sql_withMeasures written fewer
  refine ⟨text, by rwa [compiled.statementFor_eq], ?_⟩
  unfold Ask.sql
  rw [compiled.lower_eq List.filter_sublist.subset]
  exact text_eq

namespace Session

/-- Texts that were sent, after others. -/
def Sends (engine : Engine) (before after : Session) (asks : List Ask) : Prop :=
  after.sent.map .ok = before.sent.map .ok ++ asks.map (Ask.sql engine)

/-- A session that shares a cache of this capacity, after these pairs were requested. -/
def Accounts (session : Session) (capacity : Nat) (requested : List (Scope × Measure)) : Prop :=
  ∃ cache, session.cache = .memory cache ∧ cache.capacity = capacity ∧
    cache.Accounts (requested.map pairKey)

theorem settle_of_ne_none {session : Session} {outcome : Except QueryError (Option Table)} {table : Table}
    (found : outcome ≠ .ok none) (settled : (session.settle engine task outcome).2 = .ok table) :
    outcome = .ok (some table) ∧ (session.settle engine task outcome).1 = session := by
  match outcome with
  | .error error => cases settled
  | .ok (some other) =>
    obtain rfl := Except.ok.inj settled
    exact ⟨rfl, rfl⟩
  | .ok none => exact absurd rfl found

variable {capacity : Nat} {requested : List (Scope × Measure)}

theorem fetch_of_found (session : Session) {cached : List Measure}
    (lookup : task.lookup session.cache = (cached, [])) : session.fetch engine task =
      { session with cache := (task.completeRaw session.cache cached).1 }.settle engine task
        (task.completeRaw session.cache cached).2 := by
  unfold fetch
  rw [lookup]
  rfl

theorem fetch_of_missed (session : Session) {cached missing : List Measure}
    (lookup : task.lookup session.cache = (cached, missing)) (some : missing ≠ []) {later : List String}
    {answer : Except QueryError Table}
    (executed : engine.execute session.sent (task.statementFor missing) = (later, answer)) :
    session.fetch engine task =
      (Session.mk (task.completeAnswer session.cache cached missing answer).1 later).settle engine task
        (task.completeAnswer session.cache cached missing answer).2 := by
  unfold fetch send
  rw [lookup]
  simp only [executed, List.isEmpty_iff, some, if_false]

/-- A fetch that succeeds completes what is cached with an answer for what is not. -/
theorem fetch_counts (compiled : task.Compiled engine) {cache : MemoryCache} {sent : List String}
    {cached missing : List Measure}
    (found : cached = task.measures.filter fun measure => cache.contains task.key measure)
    (missed : missing = task.measures.filter fun measure => !cache.contains task.key measure) {raw : Table}
    (fetched : ((Session.mk (.memory cache) sent).fetch engine task).2 = .ok raw) :
    ∃ answer table, (task.complete (.memory cache) cached missing answer).2 = .ok (some table) ∧
      ((Session.mk (.memory cache) sent).fetch engine task).1.cache =
        (task.complete (.memory cache) cached missing answer).1 ∧
      ((Session.mk (.memory cache) sent).fetch engine task).1.sent.map .ok = sent.map .ok ++
        if missing = [] then [] else [Ask.sql engine ⟨task.scope, missing⟩] := by
  have lookup : task.lookup (.memory cache) = (cached, missing) := by
    rw [task.lookup_eq, found, missed]
    rfl
  have all : ∀ measure ∈ cached, cache.contains task.key measure = true :=
    fun measure listed => (List.mem_filter.mp (found ▸ listed)).2
  by_cases nothing : missing = []
  · subst nothing
    rw [fetch_of_found ⟨.memory cache, sent⟩ lookup] at fetched ⊢
    have whole : cached = task.measures := by
      rw [found, List.filter_eq_self]
      intro measure listed
      simpa using List.filter_eq_nil_iff.mp missed.symm measure listed
    have kept := whole ▸ Plan.ScopeTask.completeRaw_ne_none compiled.asked (whole ▸ all)
    obtain ⟨completed, settled⟩ := settle_of_ne_none kept fetched
    rw [settled, if_pos rfl, List.append_nil]
    unfold Plan.ScopeTask.completeRaw at completed ⊢
    split at completed
    · cases completed
    · cases completed
    · next answer known =>
      refine ⟨answer, raw, completed, ?_, rfl⟩
      simp only [known]
  · obtain ⟨text, written, asked⟩ := compiled.exists_sql fun measure => !cache.contains task.key measure
    rw [← missed] at written asked
    rw [fetch_of_missed ⟨.memory cache, sent⟩ lookup nothing
      (Engine.execute_of_sql sent written)] at fetched ⊢
    rw [if_neg nothing, asked]
    cases received : engine.receive sent.length (task.statementFor missing) with
    | error error =>
      rw [received] at fetched
      cases fetched
    | ok answer =>
      rw [received] at fetched
      have kept : (task.completeAnswer (.memory cache) cached missing (.ok answer)).2 ≠ .ok none :=
        task.complete_ne_none all
      obtain ⟨completed, settled⟩ := settle_of_ne_none kept fetched
      have sent_eq := congrArg (fun session : Session => session.sent.map (@Except.ok QueryError String)) settled
      exact ⟨answer, raw, completed, congrArg Session.cache settled, sent_eq.trans List.map_append⟩

/-- The step of a run: a task that succeeds sends one statement for what is new, if anything is, and its
pairs are accounted for. -/
theorem runTask_accounts (compiled : task.Compiled engine) (apart : reach.KeysTellApart)
    (covers : reach.Covers task.pairs) (known : reach.Covers requested) {session : Session}
    (accounts : session.Accounts capacity requested)
    (room : (requested ++ task.pairs).toFinset.card ≤ capacity) {table : Table}
    (ran : (session.runTask engine task).2 = .ok table) :
    (session.runTask engine task).1.Accounts capacity (requested ++ task.pairs) ∧
      session.Sends engine (session.runTask engine task).1 (task.ask? requested).toList := by
  obtain ⟨raw, fetched, -⟩ := bind_eq_ok.mp ran
  obtain ⟨cache, sent⟩ := session
  obtain ⟨cache, rfl, rfl, counts⟩ := accounts
  obtain ⟨answer, completion, completed, cache_eq, sent_eq⟩ := fetch_counts compiled rfl rfl fetched
  obtain ⟨after, after_eq, capacity_eq, stores⟩ :=
    Plan.ScopeTask.complete_accounts compiled apart covers counts room rfl rfl completed
  refine ⟨⟨after, cache_eq.trans after_eq, capacity_eq, stores⟩, sent_eq.trans (congrArg _ ?_)⟩
  unfold Plan.ScopeTask.ask?
  rw [Plan.ScopeTask.missing_eq compiled apart covers known counts]
  split <;> rfl

theorem Sends.sent_eq_iff {before after : Session} {asks : List Ask} (sends : before.Sends engine after asks) :
    after.sent = before.sent ↔ asks = [] := by
  constructor
  · intro same
    unfold Sends at sends
    rw [same, List.self_eq_append_right, List.map_eq_nil_iff] at sends
    exact sends
  · rintro rfl
    have injective : Function.Injective (@Except.ok QueryError String) := fun _ _ => Except.ok.inj
    exact injective.list_map (sends.trans (List.append_nil _))

theorem Sends.of_append {first second third : Session} {asks others : List Ask}
    (sends : first.Sends engine second asks) (all : first.Sends engine third (asks ++ others)) :
    second.Sends engine third others := by
  unfold Sends at *
  rw [all, sends, List.map_append, List.append_assoc]

theorem Sends.trans {first second third : Session} {asks others : List Ask}
    (sends : first.Sends engine second asks) (more : second.Sends engine third others) :
    first.Sends engine third (asks ++ others) := by
  unfold Sends at *
  rw [more, sends, List.map_append, List.append_assoc]

end Session

end CubeQuery
