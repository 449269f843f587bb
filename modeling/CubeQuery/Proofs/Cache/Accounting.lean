import CubeQuery.Proofs.Cache.Counters

/-! What requests cost that share a cache with room for all they ask for: the statements that are sent and
the counters of the cache follow from the pairs of scope and measure that were requested, whatever the
database answers. -/

namespace CubeQuery

open Steps

variable {engine : Engine} {task : Plan.ScopeTask} {reach : Reach} {query : Query}

/-! ### The tasks of a request -/

namespace Session

variable {capacity : Nat} {requested : List (Scope × Measure)}

theorem runTasks_concat (session : Session) (done : List Plan.ScopeTask) :
    (session.runTasks engine (done ++ [task])).1 =
      ((session.runTasks engine done).1.runTask engine task).1 := by
  induction done generalizing session with
  | nil => rfl
  | cons first rest ih => exact ih _

/-- Every task of a request succeeds that can be put together. -/
theorem exists_table_of_gather {done rest : List Plan.ScopeTask} {session : Session} {tables : ScopeTables}
    (ran : Plan.gather (done ++ task :: rest) (session.runTasks engine (done ++ task :: rest)).2 = .ok tables) :
    ∃ table, ((session.runTasks engine done).1.runTask engine task).2 = .ok table := by
  induction done generalizing session tables with
  | nil =>
    obtain ⟨table, table_eq, -⟩ := bind_eq_ok.mp ran
    exact ⟨table, table_eq⟩
  | cons first others ih =>
    unfold runTasks at ran
    obtain ⟨table, table_eq, ran⟩ := bind_eq_ok.mp ran
    obtain ⟨later, gathered, -⟩ := bind_eq_ok.mp ran
    exact ih gathered

/-- The run of a request. Its scopes differ, so what one task requests is new for none of the others. The
induction adds the last task. -/
theorem runTasks_accounts (apart : reach.KeysTellApart) (known : reach.Covers requested)
    {tasks : List Plan.ScopeTask} (compiled : ∀ task ∈ tasks, task.Compiled engine)
    (covers : ∀ task ∈ tasks, reach.Covers task.pairs) (distinct : (tasks.map Plan.ScopeTask.scope).Nodup)
    {session : Session} (accounts : session.Accounts capacity requested)
    (room : (requested ++ tasks.flatMap Plan.ScopeTask.pairs).toFinset.card ≤ capacity)
    (each : ∀ done task rest, tasks = done ++ task :: rest →
      ∃ table, ((session.runTasks engine done).1.runTask engine task).2 = .ok table) :
    (session.runTasks engine tasks).1.Accounts capacity (requested ++ tasks.flatMap Plan.ScopeTask.pairs) ∧
      session.Sends engine (session.runTasks engine tasks).1 (tasks.filterMap (·.ask? requested)) := by
  induction tasks using List.reverseRecOn with
  | nil =>
    rw [List.flatMap_nil, List.append_nil]
    exact ⟨accounts, (List.append_nil _).symm⟩
  | append_singleton done last ih =>
    have older {task : Plan.ScopeTask} (listed : task ∈ done) : task ∈ done ++ [last] :=
      List.mem_append_left _ listed
    have lastListed : last ∈ done ++ [last] := List.mem_append_right _ (List.mem_singleton_self _)
    rw [List.flatMap_append, List.flatMap_singleton, ← List.append_assoc] at room ⊢
    rw [List.map_append, List.map_singleton] at distinct
    have roomBefore : (requested ++ done.flatMap Plan.ScopeTask.pairs).toFinset.card ≤ capacity :=
      (card_toFinset_mono (List.subset_append_left _ _)).trans room
    obtain ⟨before, sends⟩ := ih (fun task listed => compiled task (older listed))
      (fun task listed => covers task (older listed)) distinct.of_append_left roomBefore
      (fun first task rest split => each first task (rest ++ [last]) (by simp [split]))
    obtain ⟨table, ran⟩ := each done last [] rfl
    have knownBefore : reach.Covers (requested ++ done.flatMap Plan.ScopeTask.pairs) := by
      refine known.append fun pair listed => ?_
      obtain ⟨task, member, among⟩ := List.mem_flatMap.mp listed
      exact covers task (older member) pair among
    obtain ⟨after, sendsLast⟩ := runTask_accounts (compiled last lastListed) apart (covers last lastListed)
      knownBefore before room ran
    have elsewhere : ∀ pair ∈ done.flatMap Plan.ScopeTask.pairs, pair.1 ≠ last.scope := by
      intro pair listed same
      obtain ⟨task, member, among⟩ := List.mem_flatMap.mp listed
      obtain ⟨measure, -, rfl⟩ := List.mem_map.mp among
      exact List.disjoint_of_nodup_append distinct (List.mem_map_of_mem member)
        (List.mem_singleton.mpr same)
    rw [Plan.ScopeTask.ask?_append elsewhere] at sendsLast
    rw [runTasks_concat, List.filterMap_append, Plan.ScopeTask.filterMap_ask?]
    exact ⟨after, sends.trans sendsLast⟩

end Session

/-! ### Requests -/

/-- The tasks of a query that can be planned. -/
def Engine.tasksFor (engine : Engine) (query : Query) : List Plan.ScopeTask :=
  match PlannedQuery.of engine query with
  | .ok planned => planned.tasks
  | .error _ => []

/-- The pairs that a query requests. -/
def Engine.pairs (engine : Engine) (query : Query) : List (Scope × Measure) :=
  (engine.tasksFor query).flatMap Plan.ScopeTask.pairs

/-- The statements for what queries request, one after another, that was not requested before. -/
def Engine.asks (engine : Engine) (requested : List (Scope × Measure)) : List Query → List Ask
  | [] => []
  | query :: rest => (engine.tasksFor query).filterMap (·.ask? requested)
      ++ engine.asks (requested ++ engine.pairs query) rest

namespace Engine

theorem tasksFor_eq {planned : PlannedQuery} (made : PlannedQuery.of engine query = .ok planned) :
    engine.tasksFor query = planned.tasks := by
  unfold tasksFor
  rw [made]

theorem exists_planned_of_mem (listed : task ∈ engine.tasksFor query) :
    ∃ planned, PlannedQuery.of engine query = .ok planned ∧ task ∈ planned.tasks := by
  unfold tasksFor at listed
  split at listed
  · next planned made => exact ⟨planned, made, listed⟩
  · cases listed

theorem compiled_of_mem (listed : task ∈ engine.tasksFor query) : task.Compiled engine := by
  obtain ⟨planned, made, listed⟩ := exists_planned_of_mem listed
  obtain ⟨-, built, tasks_eq⟩ := PlannedQuery.of_eq_ok made
  exact ((Plan.tasks_spec (Plan.wellBuilt_of_build built) tasks_eq).2 task listed).1

theorem scopes_nodup (engine : Engine) (query : Query) :
    ((engine.tasksFor query).map Plan.ScopeTask.scope).Nodup := by
  refine List.Nodup.of_map Scope.key ?_
  have keyed : ((engine.tasksFor query).map Plan.ScopeTask.scope).map Scope.key =
      (engine.tasksFor query).map Plan.ScopeTask.key := by
    rw [List.map_map]
    exact List.map_congr_left fun task listed => (compiled_of_mem listed).keyed.symm
  rw [keyed]
  unfold tasksFor
  split
  · next planned made =>
    obtain ⟨-, built, tasks_eq⟩ := PlannedQuery.of_eq_ok made
    rw [(Plan.tasks_spec (Plan.wellBuilt_of_build built) tasks_eq).1]
    exact (Plan.tidy_of_build built).keys
  · exact List.nodup_nil

/-- The pairs of the queries of a run come up in it. -/
theorem covers_pairs {queries : List Query} (listed : query ∈ queries) :
    (Reach.ofQueries queries).Covers (engine.pairs query) := by
  intro pair requested
  obtain ⟨task, member, among⟩ := List.mem_flatMap.mp requested
  obtain ⟨measure, asked, rfl⟩ := List.mem_map.mp among
  obtain ⟨planned, made, member⟩ := exists_planned_of_mem member
  obtain ⟨-, built, tasks_eq⟩ := PlannedQuery.of_eq_ok made
  obtain ⟨keys_eq, each⟩ := Plan.tasks_spec (Plan.wellBuilt_of_build built) tasks_eq
  obtain ⟨-, measures_eq, found⟩ := each task member
  exact ⟨⟨query, listed, planned.plan, built, Plan.involves_of_lookup found⟩,
    ⟨query, listed, planned.plan, built, task.key, keys_eq ▸ List.mem_map_of_mem member, task.measures,
      measures_eq, asked⟩⟩

theorem covers_requested {queries earlier : List Query} (among : earlier ⊆ queries) :
    (Reach.ofQueries queries).Covers (earlier.flatMap engine.pairs) := by
  intro pair listed
  obtain ⟨query, member, requested⟩ := List.mem_flatMap.mp listed
  exact covers_pairs (among member) pair requested

/-- A query requests no pair twice. -/
theorem pairs_nodup (engine : Engine) (query : Query) : (engine.pairs query).Nodup := by
  refine List.nodup_flatMap.mpr ⟨fun task listed => ?_, ?_⟩
  · refine (List.Nodup.of_map _ (compiled_of_mem listed).labels).map_on fun measure _ other _ same => ?_
    exact (Prod.mk.inj same).2
  · refine (List.pairwise_map.mp (engine.scopes_nodup query)).imp fun apart pair here there => ?_
    obtain ⟨_, -, rfl⟩ := List.mem_map.mp here
    obtain ⟨_, -, same⟩ := List.mem_map.mp there
    exact apart (congrArg Prod.fst same).symm

/-- What is asked for a query is what was not requested before. -/
theorem pairs_asks (engine : Engine) (requested : List (Scope × Measure)) (query : Query) :
    ((engine.tasksFor query).filterMap (·.ask? requested)).flatMap Ask.pairs =
      (engine.pairs query).filter (· ∉ requested) := by
  unfold pairs
  induction engine.tasksFor query with
  | nil => rfl
  | cons first rest ih =>
    rw [List.flatMap_cons, List.filter_append, ← ih, ← first.pairs_ask?, List.filterMap_cons]
    cases first.ask? requested <;> simp

theorem asks_nodup (engine : Engine) (requested : List (Scope × Measure)) (queries : List Query) :
    ((engine.asks requested queries).flatMap Ask.pairs).Nodup ∧
      ∀ pair ∈ (engine.asks requested queries).flatMap Ask.pairs, pair ∉ requested := by
  induction queries generalizing requested with
  | nil => exact ⟨.nil, nofun⟩
  | cons query rest ih =>
    obtain ⟨distinct, new⟩ := ih (requested ++ engine.pairs query)
    have newHere : ∀ pair ∈ (engine.pairs query).filter (· ∉ requested),
        pair ∈ engine.pairs query ∧ pair ∉ requested := by
      intro pair listed
      simpa using List.mem_filter.mp listed
    unfold asks
    rw [List.flatMap_append, pairs_asks]
    constructor
    · refine ((engine.pairs_nodup query).filter _).append distinct fun pair here later => ?_
      exact new pair later (List.mem_append_right _ (newHere pair here).1)
    · intro pair listed
      rcases List.mem_append.mp listed with here | later
      · exact (newHere pair here).2
      · exact fun before => new pair later (List.mem_append_left _ before)

end Engine

namespace Session

/-- Queries that use the cache and succeed, one after another. -/
def Serves (engine : Engine) : Session → List Query → Prop
  | _, [] => True
  | session, query :: rest => query.cacheAction = .use ∧
      (∃ table, (session.execute engine query).2 = .ok table) ∧ Serves engine (session.execute engine query).1 rest

theorem serves_append {session : Session} {earlier later : List Query}
    (serves : session.Serves engine (earlier ++ later)) :
    session.Serves engine earlier ∧ (session.after engine earlier).Serves engine later := by
  induction earlier generalizing session with
  | nil => exact ⟨trivial, serves⟩
  | cons query rest ih =>
    obtain ⟨use, succeeds, serves⟩ := serves
    obtain ⟨before, after⟩ := ih serves
    exact ⟨⟨use, succeeds, before⟩, after⟩

variable {capacity : Nat} {requested : List (Scope × Measure)} {queries : List Query}

/-- A request that succeeds runs its tasks to their ends. -/
theorem execute_eq_runTasks (use : query.cacheAction = .use) {session : Session} {table : Table}
    (executed : (session.execute engine query).2 = .ok table) :
    (session.execute engine query).1 = (session.runTasks engine (engine.tasksFor query)).1 ∧
      ∀ done task rest, engine.tasksFor query = done ++ task :: rest →
        ∃ table, ((session.runTasks engine done).1.runTask engine task).2 = .ok table := by
  obtain ⟨planned, made⟩ := execute_eq_ok executed
  have cache_eq : session.cacheFor query = session.cache := by
    unfold cacheFor
    rw [use]
  rw [execute_eq_result made, cache_eq] at executed
  obtain ⟨tables, gathered, -⟩ := bind_eq_ok.mp executed
  rw [Engine.tasksFor_eq made]
  refine ⟨execute_of_use made use, fun done task rest split => ?_⟩
  rw [split] at gathered
  exact exists_table_of_gather gathered

/-- What a request comes to after some of its tasks. -/
theorem execute_accounts (keys : (Reach.ofQueries queries).KeysTellApart) (listed : query ∈ queries)
    (known : (Reach.ofQueries queries).Covers requested) (use : query.cacheAction = .use) {session : Session}
    (accounts : session.Accounts capacity requested)
    (room : (requested ++ engine.pairs query).toFinset.card ≤ capacity) {table : Table}
    (executed : (session.execute engine query).2 = .ok table) {done rest : List Plan.ScopeTask}
    (split : engine.tasksFor query = done ++ rest) :
    (session.runTasks engine done).1.Accounts capacity (requested ++ done.flatMap Plan.ScopeTask.pairs) ∧
      session.Sends engine (session.runTasks engine done).1 (done.filterMap (·.ask? requested)) := by
  have among {task : Plan.ScopeTask} (member : task ∈ done) : task ∈ engine.tasksFor query :=
    split ▸ List.mem_append_left _ member
  have pairs_eq : engine.pairs query = done.flatMap Plan.ScopeTask.pairs ++ rest.flatMap Plan.ScopeTask.pairs := by
    unfold Engine.pairs
    rw [split, List.flatMap_append]
  refine runTasks_accounts keys known (fun task member => Engine.compiled_of_mem (among member))
    (fun task member pair requested => ?_) ?_ accounts ?_ fun first task others here => ?_
  · exact Engine.covers_pairs listed pair (List.mem_flatMap.mpr ⟨task, among member, requested⟩)
  · have distinct := engine.scopes_nodup query
    rw [split, List.map_append] at distinct
    exact distinct.of_append_left
  · rw [pairs_eq, ← List.append_assoc] at room
    exact (card_toFinset_mono (List.subset_append_left _ _)).trans room
  · exact (execute_eq_runTasks use executed).2 first task (others ++ rest) (by simp [split, here])

/-- The run. The induction is on the requests. -/
theorem after_accounts (keys : (Reach.ofQueries queries).KeysTellApart) {earlier : List Query}
    (among : earlier ⊆ queries) (known : (Reach.ofQueries queries).Covers requested) {session : Session}
    (serves : session.Serves engine earlier) (accounts : session.Accounts capacity requested)
    (room : (requested ++ earlier.flatMap engine.pairs).toFinset.card ≤ capacity) :
    (session.after engine earlier).Accounts capacity (requested ++ earlier.flatMap engine.pairs) ∧
      session.Sends engine (session.after engine earlier) (engine.asks requested earlier) := by
  induction earlier generalizing session requested with
  | nil =>
    rw [List.flatMap_nil, List.append_nil]
    exact ⟨accounts, (List.append_nil _).symm⟩
  | cons query rest ih =>
    obtain ⟨listed, later⟩ := List.cons_subset.mp among
    obtain ⟨use, ⟨table, executed⟩, serves⟩ := serves
    rw [List.flatMap_cons, ← List.append_assoc] at room ⊢
    obtain ⟨after, sends⟩ := execute_accounts keys listed known use accounts
      ((card_toFinset_mono (List.subset_append_left _ _)).trans room) executed (List.append_nil _).symm
    rw [← (execute_eq_runTasks use executed).1] at after sends
    obtain ⟨final, more⟩ := ih later (known.append (Engine.covers_pairs listed)) serves after room
    exact ⟨final, sends.trans more⟩

theorem Accounts.stats {session : Session} (accounts : session.Accounts capacity requested) :
    session.cache.stats.hits + session.cache.stats.misses = requested.length ∧
      session.cache.stats.size = session.cache.stats.misses := by
  obtain ⟨cache, cache_eq, -, counts⟩ := accounts
  have lookups := counts.lookups
  have misses := counts.misses
  rw [List.length_map] at lookups
  rw [cache_eq]
  unfold QueryCache.stats MemoryCache.stats
  simp only
  omega

/-- Nothing that is cached is computed again. Where requests share a new cache with room for all that they
request, each pair of a scope and a measure of the database is asked for once in the whole run. A request
runs the tasks of its scopes, and a task sends a statement if, and only if, one of its measures was not
requested in its scope before; it asks for these measures. The counters grow by the pairs of the request,
and nothing is stored but what was missed. -/
theorem nothing_recomputed (engine : Engine) (capacity : Nat) (queries : List Query)
    (serves : (fresh capacity).Serves engine queries) (keys : (Reach.ofQueries queries).KeysTellApart)
    (room : (queries.flatMap engine.pairs).toFinset.card ≤ capacity) :
    (fresh capacity).Sends engine ((fresh capacity).after engine queries) (engine.asks [] queries) ∧
      ((engine.asks [] queries).flatMap Ask.pairs).Nodup ∧
      ∀ earlier query later, queries = earlier ++ query :: later →
        let requested := earlier.flatMap engine.pairs
        let before := (fresh capacity).after engine earlier
        let after := (before.execute engine query).1
        after = (before.runTasks engine (engine.tasksFor query)).1 ∧
          (∀ done task rest, engine.tasksFor query = done ++ task :: rest →
            let start := (before.runTasks engine done).1
            let finished := (start.runTask engine task).1
            start.Sends engine finished (task.ask? requested).toList ∧
              (finished.sent ≠ start.sent ↔ ∃ measure ∈ task.measures, (task.scope, measure) ∉ requested)) ∧
          (engine.pairs query).Nodup ∧
          after.cache.stats.hits + after.cache.stats.misses =
            before.cache.stats.hits + before.cache.stats.misses + (engine.pairs query).length ∧
          after.cache.stats.size = after.cache.stats.misses := by
  have start : (fresh capacity).Accounts (max capacity 1) [] :=
    ⟨.ofCapacity capacity, rfl, rfl, MemoryCache.accounts_ofCapacity capacity⟩
  have fits : ([] ++ queries.flatMap engine.pairs).toFinset.card ≤ max capacity 1 :=
    room.trans (Nat.le_max_left _ _)
  refine ⟨(after_accounts keys (List.Subset.refl _) (Reach.covers_nil _) serves start fits).2, (engine.asks_nodup [] queries).1,
    fun earlier query later split => ?_⟩
  intro requested before after
  rw [split] at serves fits
  obtain ⟨servesEarlier, use, ⟨table, executed⟩, -⟩ := serves_append serves
  have among : earlier ⊆ queries := split ▸ List.subset_append_left _ _
  have listed : query ∈ queries := split ▸ List.mem_append_right _ List.mem_cons_self
  have known : (Reach.ofQueries queries).Covers requested := Engine.covers_requested among
  have room : (requested ++ engine.pairs query).toFinset.card ≤ max capacity 1 := by
    refine (card_toFinset_mono ?_).trans fits
    rw [List.nil_append, List.flatMap_append, List.flatMap_cons, ← List.append_assoc]
    exact List.subset_append_left _ _
  have roomBefore : ([] ++ requested).toFinset.card ≤ max capacity 1 :=
    (card_toFinset_mono (List.subset_append_left _ _)).trans room
  obtain ⟨accounts, -⟩ := after_accounts keys among (Reach.covers_nil _) servesEarlier start roomBefore
  have ran := execute_eq_runTasks use executed
  have part {done rest : List Plan.ScopeTask} (split : engine.tasksFor query = done ++ rest) :=
    execute_accounts keys listed known use accounts room executed split
  refine ⟨ran.1, fun done task rest taskSplit => ?_, engine.pairs_nodup query, ?_⟩
  · intro begun finished
    have upTo := (part taskSplit).2
    have throughSplit : engine.tasksFor query = (done ++ [task]) ++ rest := by
      rw [taskSplit, List.append_assoc, List.singleton_append]
    have through := (part throughSplit).2
    rw [runTasks_concat, List.filterMap_append, Plan.ScopeTask.filterMap_ask?] at through
    have sends := upTo.of_append through
    refine ⟨sends, ?_⟩
    rw [ne_eq, sends.sent_eq_iff, Option.toList_eq_nil_iff, Plan.ScopeTask.ask?_eq_none_iff]
    simp
  · have whole := (part (List.append_nil _).symm).1
    rw [← ran.1] at whole
    obtain ⟨counted, size⟩ := whole.stats
    rw [counted, accounts.stats.1, List.length_append]
    exact ⟨Int.natCast_add _ _, size⟩

/-! ### Totals of shops, requested twice -/

/-- Both requests succeed, the second one from what the first one stored. -/
theorem shops_serve : (fresh 1).Serves shopEngine [shopQuery, shopQuery] := by
  have backend := Engine.columnwise_ofRows .generic shopDatastore [("sales", shopRows)]
  have keys : (Reach.ofQueries [shopQuery]).KeysTellApart := shopQuery_asks.keys (by simp)
  have genuine : ∀ entry ∈ ((fresh 1).execute shopEngine shopQuery).1.cache.entries,
      shopEngine.Genuine _ _ (.ofQueries [shopQuery]) entry :=
    execute_genuine backend (List.mem_singleton_self shopQuery) shopQuery_markersApart
      fun _ stored => absurd stored List.not_mem_nil
  have second := execute_follows backend (List.mem_singleton_self shopQuery) keys shopQuery_markersApart
    (shopQuery_tells.pointsDetermineRows shopQuery_markersApart) nofun rfl genuine shopQuery_direct
  have grouped : ¬((fresh 1).execute shopEngine shopQuery).1.LosesRows shopQuery shopTable :=
    fun loses => absurd loses.1 (List.cons_ne_nil _ _)
  exact ⟨rfl, ⟨_, shops_once 1⟩, rfl, ⟨_, second.1 grouped⟩, trivial⟩

theorem shopQuery_pairs : shopEngine.pairs shopQuery =
    [(.ofQuery shopQuery, .aggregated "total" (.ofName "price") "sum" none)] := by
  unfold Engine.pairs
  rw [Engine.tasksFor_eq shopQuery_planned]
  rfl

/-- The second request of a pair is counted, and nothing is sent for it. -/
theorem shops_counted :
    let before := (fresh 1).after shopEngine [shopQuery]
    let again := (before.execute shopEngine shopQuery).1
    (fresh 1).Serves shopEngine [shopQuery, shopQuery] ∧ again.sent = before.sent ∧
      again.cache.stats.hits + again.cache.stats.misses =
        before.cache.stats.hits + before.cache.stats.misses + 1 ∧
      again.cache.stats.size = again.cache.stats.misses := by
  intro before again
  have keys : (Reach.ofQueries [shopQuery, shopQuery]).KeysTellApart := shopQuery_asks.keys (by simp)
  have room : ([shopQuery, shopQuery].flatMap shopEngine.pairs).toFinset.card ≤ 1 := by
    rw [List.flatMap_cons, List.flatMap_singleton, List.toFinset_append, Finset.union_self, shopQuery_pairs]
    exact List.toFinset_card_le _
  obtain ⟨-, -, each⟩ := nothing_recomputed shopEngine 1 [shopQuery, shopQuery] shops_serve keys room
  obtain ⟨ran, tasks, -, counted, size⟩ := each [shopQuery] shopQuery [] rfl
  have alone := Engine.tasksFor_eq shopQuery_planned
  obtain ⟨-, sends⟩ := tasks [] _ [] alone
  rw [alone] at ran
  refine ⟨shops_serve, ?_, ?_, size⟩
  · rw [show again = (before.runTask shopEngine (shopTask (Scope.ofQuery shopQuery).key)).1 from
      ran.trans (runTasks_concat before [])]
    refine not_not.mp (sends.not.mpr ?_)
    rintro ⟨measure, asked, new⟩
    obtain rfl := List.mem_singleton.mp asked
    rw [List.flatMap_singleton, shopQuery_pairs] at new
    exact new (List.mem_singleton_self _)
  · rwa [shopQuery_pairs] at counted

end Session

end CubeQuery
