import CubeQuery.Proofs.Cache.Fetching

/-! What a fetch comes to. With genuine entries it gives the columns that the database has for the
scope, unless all of them are cached and nothing stands in front of them: then the rows are lost. -/

namespace CubeQuery

open Steps

/-- Keys tell the scopes and the measures of a run apart. -/
structure Reach.KeysTellApart (reach : Reach) : Prop where
  scopes : ∀ {scope other}, reach.scopes scope → reach.scopes other → scope.key = other.key → scope = other
  measures : ∀ {measure other}, reach.measures measure → reach.measures other →
    measure.key = other.key → measure = other

variable {engine : Engine} {frame : Statement → List Column} {column : Statement → TypedMeasure → Column}
  {reach : Reach} {task : Plan.ScopeTask} {layout : Layout}

/-- A task that the database answers. -/
structure Plan.ScopeTask.Served (engine : Engine) (task : Plan.ScopeTask) (layout : Layout) : Prop where
  fits : layout.Fits task.measures
  received : ∀ number, engine.receive number task.statement = .ok (layout.table task.measures)
  executed : ∀ sent wanted, task.measures.filter wanted ≠ [] → ∃ text,
    engine.execute sent (task.statementFor (task.measures.filter wanted)) =
      (sent ++ [text], .ok (layout.table (task.measures.filter wanted)))
  bare : layout.front = [] ↔ task.scope.columns = []

theorem filter_every {α : Type} (items : List α) : items.filter (fun _ => true) = items :=
  List.filter_eq_self.mpr fun _ _ => rfl

theorem Plan.ScopeTask.Sound.served (backend : engine.Columnwise frame column)
    (sound : task.Sound engine reach) {number : Nat} {table : Table}
    (received : engine.receive number (task.statementFor task.measures) = .ok table) :
    task.Served engine (engine.layoutOf frame column task) := by
  have compiled := sound.compiled
  obtain ⟨raw, answered⟩ := Engine.answered_of_receive received
  rw [← filter_every task.measures, compiled.statementFor_eq, filter_every] at answered
  have delivers := backend.delivers_some compiled sound.apart (List.Subset.refl _) compiled.asked answered
  refine ⟨delivers.fits fun measure listed => compiled.label_typed listed, fun number => ?_,
    fun sent wanted asked => ?_, ?_⟩
  · have whole := delivers.received number
    rwa [Engine.delivered_eq, ← compiled.typed_spec.1, Statement.withMeasures_self] at whole
  · have fewer : (task.measures.filter wanted).Sublist task.measures := List.filter_sublist
    obtain ⟨text, written⟩ := compiled.written
    have fewerTyped : ((task.measures.filter wanted).map task.typed).Sublist task.statement.measures := by
      rw [compiled.typed_spec.1]
      exact fewer.map _
    obtain ⟨other, otherWritten⟩ := Engine.sql_withMeasures written fewerTyped
    obtain ⟨some, someAnswered⟩ := backend.again answered sent.length
      ((task.measures.filter wanted).map task.typed) (fun none => asked (List.map_eq_nil_iff.mp none))
      (fewer.map _)
    rw [Statement.withMeasures_withMeasures] at someAnswered
    refine ⟨other, ?_⟩
    rw [compiled.statementFor_eq, Engine.execute_of_sql sent otherWritten,
      (backend.delivers_some compiled sound.apart fewer.subset asked someAnswered).received,
      Engine.delivered_eq]
  · obtain ⟨resolver, selected, -⟩ := Scope.lower_eq_ok compiled.lowered
    rw [← List.length_eq_zero_iff (l := task.scope.columns), (mapM_eq_ok.mp selected).length_eq,
      List.length_eq_zero_iff]
    exact delivers.framed_eq_nil

/-- Genuine entries of a scope hold its tables. -/
theorem holds_of_genuine (sound : task.Sound engine reach) (apart : reach.KeysTellApart)
    {cache : MemoryCache}
    (genuine : ∀ entry ∈ cache.entries, engine.Genuine frame column reach entry) :
    cache.Holds task.key (engine.layoutOf frame column task) task.measures := by
  constructor
  · intro measure listed entry stored key
    obtain ⟨scope, own, statement, scopeKnown, ownKnown, ownKey, lowered, -, table_eq⟩ :=
      genuine entry stored
    rw [ownKey, CacheKey.of, CacheKey.of, CacheKey.mk.injEq, sound.compiled.keyed] at key
    obtain rfl := apart.scopes scopeKnown sound.scope key.1
    obtain rfl := apart.measures ownKnown (sound.measures measure listed) key.2
    rw [sound.compiled.lower_eq (List.cons_subset.mpr ⟨listed, List.nil_subset _⟩)] at lowered
    obtain rfl := Except.ok.inj lowered
    rw [table_eq, Engine.delivered_eq]
  · intro entry stored key
    obtain ⟨scope, own, statement, scopeKnown, -, ownKey, lowered, delivers, table_eq⟩ :=
      genuine entry stored
    rw [ownKey, sound.compiled.keyed] at key
    obtain rfl := apart.scopes scopeKnown sound.scope key
    have core_eq : statement.core = task.statement.core := by
      obtain ⟨resolver, source, parts⟩ := Scope.lower_eq_lowerParts lowered
      have whole := sound.compiled.lowered
      rw [parts (.refl _)] at whole lowered
      have alone := Scope.lowerParts_eq_ok.mp lowered
      have again := (Scope.lowerParts_eq_ok.mp whole).withMeasures alone.measures
      rw [Scope.lowerParts_eq_ok.mpr again] at lowered
      rw [← Except.ok.inj lowered]
      rfl
    rw [table_eq, delivers.formed.project_grouping, delivers.groupingColumns_eq, core_eq]
    rfl

/-! ### What a fetch gives -/

namespace Plan.ScopeTask

/-- Cached as a whole: nothing is asked of the database. -/
def Cached (task : ScopeTask) (cache : QueryCache) : Prop :=
  ∀ measure ∈ task.measures, cache.contains task.key measure = true

instance (task : ScopeTask) (cache : QueryCache) : Decidable (task.Cached cache) :=
  inferInstanceAs (Decidable (∀ measure ∈ task.measures, cache.contains task.key measure = true))

/-- No two rows that the database gives for a task have one point, once totals are marked. -/
def PointsApart (engine : Engine) (task : ScopeTask) : Prop :=
  ∀ {number table}, engine.receive number task.statement = .ok table →
    (table.rowIndices.map table.point).Nodup

/-- Rows of one point that the database gives for a task are the same, once totals are marked. -/
def PointsDetermineRows (engine : Engine) (task : ScopeTask) : Prop :=
  ∀ number table, engine.receive number task.statement = .ok table →
    ∀ row ∈ table.rowIndices, ∀ other ∈ table.rowIndices,
      table.point row = table.point other → table.row row = table.row other

theorem PointsApart.determine (apart : task.PointsApart engine) : task.PointsDetermineRows engine := by
  intro number table received row listed other otherListed same
  rw [List.inj_on_of_nodup_map (apart received) listed otherListed same]

theorem PointsDetermineRows.ofServed (points : task.PointsDetermineRows engine)
    (served : task.Served engine layout) : layout.PointsDetermineRows task.measures := by
  intro row listed other otherListed same measure member
  have samePoint : (layout.table task.measures).point row = (layout.table task.measures).point other := by
    unfold Table.point
    rw [served.fits.groupingColumns_eq]
    exact same
  have sameRow := points 0 _ (served.received 0) row listed other otherListed samePoint
  unfold Table.row Table.cells at sameRow
  exact List.map_inj_left.mp sameRow _ (List.mem_append_right _ (List.mem_map_of_mem member))

theorem complete_eq (served : task.Served engine layout) (points : layout.PointsDetermineRows task.measures)
    {cache : MemoryCache} (holds : cache.Holds task.key layout task.measures)
    {cached missing : List Measure} (same : (missing ++ cached).Perm task.measures)
    (all : ∀ measure ∈ cached, cache.contains task.key measure = true)
    (nonempty : (layout.table missing).columns ≠ []) :
    (task.complete (.memory cache) cached missing (layout.table missing)).2 =
      .ok (some (layout.table (missing ++ cached))) := by
  have merged := holds.merge_eq served.fits points same all nonempty
  have stores (read : MemoryCache) :
      (read.store task.key (layout.table (missing ++ cached)) missing).2 = .ok () :=
    MemoryCache.store_eq_ok fun measure listed =>
      ⟨_, (served.fits.perm same).project_measure (List.mem_append_left _ listed)⟩
  unfold complete QueryCache.merge
  simp only
  generalize cache.merge task.key (layout.table missing) cached = result at merged ⊢
  obtain ⟨read, table, outcome⟩ := result
  obtain ⟨rfl, rfl⟩ := Prod.mk.inj merged
  simp only [found]
  split
  · rfl
  · unfold QueryCache.store
    simp only [stores read]
    rfl

theorem completeRaw_eq (compiled : task.Compiled engine) (served : task.Served engine layout)
    (points : layout.PointsDetermineRows task.measures) {cache : MemoryCache}
    (holds : cache.Holds task.key layout task.measures) (cached : task.Cached (.memory cache)) :
    (task.completeRaw (.memory cache) task.measures).2 =
      .ok (some ((if layout.front = [] then layout.withoutRows else layout).table task.measures)) := by
  have raw : cache.rawResult task.key = .ok ⟨layout.front⟩ := by
    obtain ⟨first, listed⟩ := List.exists_mem_of_ne_nil _ compiled.asked
    obtain ⟨entry, found⟩ := MemoryCache.contains_iff.mp (cached first listed)
    obtain ⟨stored, key⟩ := MemoryCache.mem_of_find? found
    unfold MemoryCache.rawResult
    cases any : cache.entries.find? fun entry => entry.key.scope = task.key with
    | none =>
      have absent := List.find?_eq_none.mp any entry stored
      rw [key] at absent
      exact absurd (decide_eq_true rfl) absent
    | some other =>
      have sameScope : other.key.scope = task.key := by simpa using List.find?_some any
      simp only
      rw [holds.front other (List.mem_of_find?_eq_some any) sameScope]
      rfl
  unfold completeRaw QueryCache.rawResult
  simp only [raw, found]
  split
  · next bare =>
    have merged := holds.merge_withoutRows served.fits bare
      (show ([] ++ task.measures).Perm task.measures from .refl _) cached
    have start : (⟨layout.front⟩ : Table) = layout.withoutRows.table [] := congrArg Table.mk bare
    unfold complete QueryCache.merge
    simp only [start]
    generalize cache.merge task.key (layout.withoutRows.table []) task.measures = result at merged ⊢
    obtain ⟨read, table, outcome⟩ := result
    obtain ⟨rfl, rfl⟩ := Prod.mk.inj merged
    rfl
  · next framed =>
    have start : (⟨layout.front⟩ : Table) = layout.table [] := by simp [Layout.table]
    rw [start]
    refine complete_eq served points holds (.refl _) cached ?_
    rwa [← start]

end Plan.ScopeTask

/-! ### Scopes that are not cached -/

/-- Nothing of a scope is cached. -/
def QueryCache.Lacks (cache : QueryCache) (key : ScopeKey) : Prop :=
  ∀ entry ∈ cache.entries, entry.key.scope ≠ key

theorem QueryCache.Lacks.contains_eq {cache : QueryCache} {key : ScopeKey} (lacks : cache.Lacks key)
    (measure : Measure) : cache.contains key measure = false := by
  cases cache with
  | disabled => rfl
  | memory cache =>
    by_contra cached
    obtain ⟨entry, found⟩ := MemoryCache.contains_iff.mp (Bool.not_eq_false _ ▸ cached)
    obtain ⟨listed, key_eq⟩ := MemoryCache.mem_of_find? found
    exact lacks entry listed (congrArg CacheKey.scope key_eq)

theorem QueryCache.lacks_disabled (key : ScopeKey) : QueryCache.disabled.Lacks key := nofun

theorem Plan.ScopeTask.lookup_of_lacks {cache : QueryCache} (lacks : cache.Lacks task.key) :
    task.lookup cache = ([], task.measures) := by
  rw [task.lookup_eq]
  exact Prod.ext (List.filter_eq_nil_iff.mpr fun measure _ => by simp [lacks.contains_eq])
    (List.filter_eq_self.mpr fun measure _ => by simp [lacks.contains_eq])

theorem QueryCache.merge_nil (cache : QueryCache) (scope : ScopeKey) (result : Table) :
    cache.merge scope result [] = (cache, result, .ok ()) := by
  cases cache <;> rfl

/-- Where nothing has to be merged, an answer is stored and given on. -/
theorem Plan.ScopeTask.completeAnswer_nil (asked : task.measures ≠ []) (cache : QueryCache)
    (answer : Except QueryError Table) :
    task.completeAnswer cache [] task.measures answer =
      ((task.storeAll cache answer).1, (task.storeAll cache answer).2.map some) := by
  cases answer with
  | error error => rfl
  | ok table =>
    unfold completeAnswer complete storeAll
    simp only [cache.merge_nil, found, List.isEmpty_iff, asked, if_false]
    rcases cache.store task.key table task.measures with ⟨stored, outcome⟩
    cases outcome <;> rfl

namespace Session

theorem settle_eq_ok {session : Session} {outcome : Except QueryError (Option Table)} {table : Table}
    (completed : outcome = .ok (some table)) : (session.settle engine task outcome).2 = .ok table := by
  rw [completed]
  rfl

/-- Some measures are asked for and completed by those that are cached. -/
theorem fetch_of_missing {session : Session} {cached missing : List Measure}
    (lookup : task.lookup session.cache = (cached, missing)) (asked : missing ≠ []) {text : String}
    {answer table : Table}
    (executed : engine.execute session.sent (task.statementFor missing) =
      (session.sent ++ [text], .ok answer))
    (completed : (task.complete session.cache cached missing answer).2 = .ok (some table)) :
    (session.fetch engine task).2 = .ok table := by
  unfold fetch send
  rw [lookup]
  simp only [executed]
  rw [if_neg (fun empty => asked (List.isEmpty_iff.mp empty))]
  exact settle_eq_ok completed

theorem fetch_of_cached {session : Session} (lookup : task.lookup session.cache = (task.measures, []))
    {table : Table} (completed : (task.completeRaw session.cache task.measures).2 = .ok (some table)) :
    (session.fetch engine task).2 = .ok table := by
  unfold fetch
  rw [lookup]
  exact settle_eq_ok completed

/-- A scope that is not cached is asked for as a whole. -/
theorem fetch_of_lacks {session : Session} (lacks : session.cache.Lacks task.key)
    (asked : task.measures ≠ []) : session.fetch engine task = session.refetch engine task := by
  unfold fetch refetch
  rw [Plan.ScopeTask.lookup_of_lacks lacks]
  simp only [List.isEmpty_iff, asked, if_false, Plan.ScopeTask.completeAnswer_nil asked]
  rcases session.send engine (task.statementFor task.measures) with ⟨sent, answer⟩
  dsimp only
  rcases task.storeAll sent.cache answer with ⟨cache, outcome⟩
  cases outcome <;> rfl

theorem fetch_of_answer {session : Session} (lacks : session.cache.Lacks task.key)
    (asked : task.measures ≠ []) {sent : List String} {answer : Table}
    (executed : engine.execute session.sent (task.statementFor task.measures) = (sent, .ok answer))
    (stored : (session.cache.store task.key answer task.measures).2 = .ok ()) :
    (session.fetch engine task).2 = .ok answer := by
  rw [fetch_of_lacks lacks asked]
  unfold refetch send Plan.ScopeTask.storeAll
  simp only [executed, stored]
  rfl

/-- A scope of which nothing is cached gives what the database has, and can be stored. -/
theorem fetch_of_served (compiled : task.Compiled engine) (served : task.Served engine layout)
    {session : Session} (lacks : session.cache.Lacks task.key) :
    (session.fetch engine task).2 = .ok (layout.table task.measures) := by
  obtain ⟨text, executed⟩ := served.executed session.sent (fun _ => true)
    (by rw [filter_every]; exact compiled.asked)
  rw [filter_every] at executed
  apply fetch_of_answer lacks compiled.asked executed
  cases session.cache with
  | disabled => rfl
  | memory cache => exact MemoryCache.store_eq_ok fun measure listed => ⟨_, served.fits.project_measure listed⟩

/-- Without a cache a fetch gives what the database has. -/
theorem fetch_disabled (compiled : task.Compiled engine) (served : task.Served engine layout)
    {session : Session} (off : session.cache = .disabled) :
    (session.fetch engine task).2 = .ok (layout.table task.measures) :=
  fetch_of_served compiled served (off ▸ QueryCache.lacks_disabled task.key)

/-- Through a cache whose entries hold the tables of the scope, a fetch gives what the database has,
unless everything is cached and nothing stands in front of the measures. -/
theorem fetch_memory (compiled : task.Compiled engine) (served : task.Served engine layout)
    (points : layout.PointsDetermineRows task.measures) {session : Session} {cache : MemoryCache}
    (on : session.cache = .memory cache) (holds : cache.Holds task.key layout task.measures) :
    ∃ table, (session.fetch engine task).2 = .ok table ∧
      if layout.front = [] ∧ task.Cached session.cache then
        table = layout.withoutRows.table task.measures
      else table.Agrees (layout.table task.measures) := by
  have lookup := task.lookup_eq session.cache
  by_cases cached : task.Cached session.cache
  · have none : (task.measures.filter fun measure => !session.cache.contains task.key measure) = [] :=
      List.filter_eq_nil_iff.mpr fun measure listed => by simp [cached measure listed]
    rw [none, List.filter_eq_self.mpr cached] at lookup
    rw [on] at cached
    have completed := Plan.ScopeTask.completeRaw_eq compiled served points holds cached
    refine ⟨_, fetch_of_cached lookup (on ▸ completed), ?_⟩
    by_cases bare : layout.front = []
    · rw [if_pos ⟨bare, on ▸ cached⟩, if_pos bare]
    · rw [if_neg (fun both => bare both.1), if_neg bare]
      exact .refl _
  · have asked : (task.measures.filter fun measure => !session.cache.contains task.key measure) ≠ [] := by
      intro none
      refine cached fun measure listed => ?_
      simpa using List.filter_eq_nil_iff.mp none measure listed
    obtain ⟨text, executed⟩ := served.executed session.sent _ asked
    have same := List.perm_append_comm.trans
      (List.filter_append_perm (fun measure => session.cache.contains task.key measure) task.measures)
    have inCache : ∀ measure ∈ task.measures.filter fun measure =>
        session.cache.contains task.key measure, cache.contains task.key measure = true := by
      intro measure listed
      have contained := (List.mem_filter.mp listed).2
      rwa [on] at contained
    have completed := Plan.ScopeTask.complete_eq served points holds same inCache
      (by simpa [Layout.table] using fun _ => asked)
    rw [← on] at completed
    refine ⟨_, fetch_of_missing lookup asked executed completed, ?_⟩
    rw [if_neg (fun both => cached both.2)]
    exact served.fits.agrees same

end Session

end CubeQuery
