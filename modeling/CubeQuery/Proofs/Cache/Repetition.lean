import CubeQuery.Proofs.Cache.Warm
import CubeQuery.Proofs.Memory.Points

/-! A query executed twice through a new cache. -/

namespace CubeQuery

open Steps

variable {engine : Engine} {frame : Statement → List Column} {column : Statement → TypedMeasure → Column}
  {reach : Reach} {task : Plan.ScopeTask} {query : Query}

/-! ### The first run -/

namespace Session

theorem runTask_of_lacks (backend : engine.Columnwise frame column) (sound : task.Sound engine reach)
    {session other : Session} (lacks : session.cache.Lacks task.key)
    (otherLacks : other.cache.Lacks task.key) {table : Table}
    (ran : (other.runTask engine task).2 = .ok table) : (session.runTask engine task).2 = .ok table := by
  unfold runTask Plan.ScopeTask.finish at ran ⊢
  obtain ⟨raw, fetched, expanded⟩ := bind_eq_ok.mp ran
  have served := sound.served backend (received_of_fetch otherLacks sound.compiled.asked fetched)
  rw [fetch_of_served sound.compiled served otherLacks] at fetched
  obtain rfl := Except.ok.inj fetched
  exact bind_eq_ok.mpr ⟨_, fetch_of_served sound.compiled served lacks, expanded⟩

theorem runTasks_of_lacks (backend : engine.Columnwise frame column) {tasks : List Plan.ScopeTask}
    (sound : ∀ task ∈ tasks, task.Sound engine reach) (distinct : (tasks.map Plan.ScopeTask.key).Nodup)
    {session other : Session} (lacks : ∀ task ∈ tasks, session.cache.Lacks task.key)
    (otherLacks : ∀ task ∈ tasks, other.cache.Lacks task.key) {tables : ScopeTables}
    (ran : Plan.gather tasks (other.runTasks engine tasks).2 = .ok tables) :
    Plan.gather tasks (session.runTasks engine tasks).2 = .ok tables := by
  induction tasks generalizing session other tables with
  | nil => exact ran
  | cons first rest ih =>
    obtain ⟨new, distinctRest⟩ := List.nodup_cons.mp distinct
    obtain ⟨soundFirst, soundRest⟩ := List.forall_mem_cons.mp sound
    obtain ⟨lacksFirst, lacksRest⟩ := List.forall_mem_cons.mp lacks
    obtain ⟨otherLacksFirst, otherLacksRest⟩ := List.forall_mem_cons.mp otherLacks
    unfold runTasks Plan.gather at ran ⊢
    obtain ⟨table, table_eq, ran⟩ := bind_eq_ok.mp ran
    obtain ⟨others, others_eq, ran⟩ := bind_eq_ok.mp ran
    exact bind_eq_ok.mpr ⟨table, runTask_of_lacks backend soundFirst lacksFirst otherLacksFirst table_eq,
      bind_eq_ok.mpr ⟨others, ih soundRest distinctRest (lacks_rest new lacksRest)
        (lacks_rest new otherLacksRest) others_eq, ran⟩⟩

/-- Sessions in which nothing of a query is cached give it the same result. -/
theorem execute_alike (backend : engine.Columnwise frame column) (markers : query.MarkersApart engine)
    {session other : Session} (lacks : session.Lacks query) (otherLacks : other.Lacks query) {table : Table}
    (executed : (other.execute engine query).2 = .ok table) :
    (session.execute engine query).2 = .ok table := by
  obtain ⟨planned, made⟩ := execute_eq_ok executed
  obtain ⟨-, planBuilt, tasks_eq⟩ := PlannedQuery.of_eq_ok made
  obtain ⟨keys_eq, -⟩ := Plan.tasks_spec (Plan.wellBuilt_of_build planBuilt) tasks_eq
  rw [execute_eq_result made] at executed ⊢
  unfold PlannedQuery.result at executed ⊢
  obtain ⟨tables, gathered, executed⟩ := bind_eq_ok.mp executed
  have distinct : (planned.tasks.map Plan.ScopeTask.key).Nodup :=
    keys_eq ▸ (Plan.tidy_of_build planBuilt).keys
  have new {session : Session} (lacks : session.Lacks query) :
      ∀ task ∈ planned.tasks, (session.cacheFor query).Lacks task.key := fun task listed =>
    lacks _ planBuilt task.key (keys_eq ▸ List.mem_map_of_mem listed)
  exact bind_eq_ok.mpr ⟨tables, runTasks_of_lacks backend
    (PlannedQuery.tasks_sound (List.mem_singleton_self query) markers made) distinct (new lacks)
    (new otherLacks) gathered, executed⟩

end Session

/-! ### Both runs -/

/-- How many columns the tasks of a query bring in. -/
def PlannedQuery.measureCount (planned : PlannedQuery) : Nat :=
  (planned.tasks.flatMap Plan.ScopeTask.measures).length

namespace Session

/-- A session that has done nothing yet. -/
def fresh (capacity : Nat) : Session := .ofCache (.memory (.ofCapacity capacity))

theorem fresh_lacks (capacity : Nat) (query : Query) : (fresh capacity).Lacks query := by
  intro plan _ key _
  have none (cache : QueryCache) (empty : cache.entries = []) : cache.Lacks key := by
    intro entry listed
    rw [empty] at listed
    cases listed
  refine none _ ?_
  unfold cacheFor
  cases query.cacheAction <;> rfl

/-- With room for all that it asks for, a query that is executed again sends nothing. -/
theorem execute_again_sends_nothing {capacity : Nat} {table : Table} {planned : PlannedQuery}
    (made : PlannedQuery.of engine query = .ok planned) (use : query.cacheAction = .use)
    (room : planned.measureCount ≤ capacity)
    (first : ((fresh capacity).execute engine query).2 = .ok table) :
    (((fresh capacity).execute engine query).1.execute engine query).1.sent =
      ((fresh capacity).execute engine query).1.sent := by
  obtain ⟨-, planBuilt, tasks_eq⟩ := PlannedQuery.of_eq_ok made
  obtain ⟨keys_eq, each⟩ := Plan.tasks_spec (Plan.wellBuilt_of_build planBuilt) tasks_eq
  have asked : ∀ task ∈ planned.tasks, task.measures ≠ [] := fun task listed => (each task listed).1.asked
  have cache_eq : (fresh capacity).cacheFor query = .memory (.ofCapacity capacity) := by
    unfold cacheFor
    rw [use]
    rfl
  have ran := first
  rw [execute_eq_result made, cache_eq] at ran
  obtain ⟨tables, gathered, -⟩ := bind_eq_ok.mp ran
  have empty : (MemoryCache.ofCapacity capacity).HasRoom planned.measureCount := by
    have least : (MemoryCache.ofCapacity capacity).capacity = max capacity 1 := rfl
    unfold MemoryCache.HasRoom
    rw [least, show (MemoryCache.ofCapacity capacity).entries = [] from rfl, List.length_nil]
    omega
  obtain ⟨stored, later, after_eq, cached, -⟩ := runTasks_of_room asked
    (keys_eq ▸ (Plan.tidy_of_build planBuilt).keys) (fun _ _ _ stored => absurd stored List.not_mem_nil)
    empty gathered
  have after : ((fresh capacity).execute engine query).1 = ⟨.memory stored, later⟩ :=
    (execute_of_use made use).trans after_eq
  rw [after, execute_of_use made use]
  exact runTasks_of_cached asked cached

end Session

/-- In no scope of the query has a row a value that is taken for a total. -/
def Query.TotalsTell (dialect : Dialect) (datastore : Datastore) (tables : List (String × List Row))
    (query : Query) : Prop :=
  ∀ planned, PlannedQuery.of (.ofRows dialect datastore tables) query = .ok planned →
    ∀ task ∈ planned.tasks, ∀ rows,
      (MemoryDatabase.ofRows dialect tables).selectedRows task.statement = .ok rows →
        (MemoryDatabase.ofRows dialect tables).TotalsTell task.statement rows

/-- Where no value is taken for a total, the points of a scope determine its rows. -/
theorem Query.TotalsTell.pointsDetermineRows {dialect : Dialect} {datastore : Datastore}
    {tables : List (String × List Row)} (markers : query.MarkersApart (.ofRows dialect datastore tables))
    (tell : query.TotalsTell dialect datastore tables) :
    query.PointsDetermineRows (.ofRows dialect datastore tables) := by
  intro planned made task listed number table received row here other there same
  obtain ⟨-, built, tasks_eq⟩ := PlannedQuery.of_eq_ok made
  obtain ⟨compiled, -, -⟩ := (Plan.tasks_spec (Plan.wellBuilt_of_build built) tasks_eq).2 task listed
  obtain ⟨text, written⟩ := compiled.written
  have asked : task.statement.measures ≠ [] := by
    rw [compiled.typed_spec.1]
    exact fun none => compiled.asked (List.map_eq_nil_iff.mp none)
  exact Engine.row_eq_of_point (Engine.check_of_sql written) (markers planned made task listed) asked
    (tell planned made task listed) received here there same

namespace Session

/-- A query executed twice through a new cache of any capacity. The second run gives the table of the first
where points determine the rows of its scopes, unless the query groups by nothing and what it computes for
its own scope is cached: then the result has no row. Points determine the rows if no value is taken for a
total. With room for its columns the second run sends nothing to the database, whatever it gives. -/
theorem execute_twice {dialect : Dialect} {datastore : Datastore} {tables : List (String × List Row)}
    (capacity : Nat) (query : Query) (table : Table) (keys : (Reach.ofQueries [query]).KeysTellApart)
    (markers : query.MarkersApart (.ofRows dialect datastore tables))
    (unplaced : query.columns = [] → query.bucketSet = none)
    (first : ((fresh capacity).execute (.ofRows dialect datastore tables) query).2 = .ok table) :
    let engine := Engine.ofRows dialect datastore tables
    let again := ((fresh capacity).execute engine query).1
    (query.PointsDetermineRows engine →
        (¬again.LosesRows query table → (again.execute engine query).2 = .ok table) ∧
        (again.LosesRows query table →
          ∃ lost, (again.execute engine query).2 = .ok lost ∧ lost.rowCount = 0)) ∧
      (query.TotalsTell dialect datastore tables → query.PointsDetermineRows engine) ∧
      ∀ planned, PlannedQuery.of engine query = .ok planned → query.cacheAction = .use →
        planned.measureCount ≤ capacity → (again.execute engine query).1.sent = again.sent := by
  intro engine again
  have backend := Engine.columnwise_ofRows dialect datastore tables
  have direct : ((Session.ofCache .disabled).execute engine query).2 = .ok table :=
    execute_alike backend markers (lacks_of_disabled rfl query) (fresh_lacks capacity query) first
  have genuine : ∀ entry ∈ again.cache.entries, engine.Genuine _ _ (.ofQueries [query]) entry :=
    execute_genuine backend (List.mem_singleton_self query) markers
      fun _ stored => absurd stored List.not_mem_nil
  exact ⟨
    fun points => execute_follows backend (List.mem_singleton_self query) keys markers points unplaced rfl
      genuine direct,
    fun tell => tell.pointsDetermineRows markers,
    fun planned made use room => execute_again_sends_nothing made use room first⟩

end Session

/-! ### Totals of shops, executed twice -/

/-- The sum of all prices, and of those of each shop. -/
def shopQuery : Query :=
  { totalQuery with
    columns := [.ofName "shop"]
    groupingSets := [[], [.ofName "shop"]] }

def shopRows : List Row :=
  [[("shop", .str "north"), ("price", .int 12)], [("shop", .str "south"), ("price", .int 9)],
    [("shop", .str "south"), ("price", .int 4)]]

def shopDatastore : Datastore := .ofList [⟨"sales", [⟨"shop", .string⟩, ⟨"price", .long⟩]⟩]

/-- A database that has no markers of totals. -/
def shopEngine : Engine := .ofRows .generic shopDatastore [("sales", shopRows)]

def shopField : TypedField := .column none "shop" .string none

def shopStatement : Statement :=
  { totalStatement with
    select := [shopField]
    groupingSets := [[], [shopField]] }

def shopTable : Table :=
  ⟨[⟨.grouping "shop" .string, [.total, .str "north", .str "south"]⟩,
    ⟨.measure "total" .long, [.int 25, .int 12, .int 13]⟩]⟩

def shopTask (key : ScopeKey) : Plan.ScopeTask :=
  ⟨key, .ofQuery shopQuery, totalQuery.measures, shopStatement⟩

theorem shopQuery_asks : shopQuery.AsksTotal := ⟨by decide, rfl⟩

theorem shopStatement_groups : MemoryDatabase.groups shopStatement shopRows =
    [([], [.null]), ([shopField], [.str "north"]), ([shopField], [.str "south"])] := by
  have shops : shopStatement.groupKeys [shopField] shopRows = [[.str "north"], [.str "south"]] := by
    have unsorted : (shopRows.map (shopStatement.groupKey [shopField])).eraseDups =
        [[.str "north"], [.str "south"]] := by decide
    unfold Statement.groupKeys
    rw [if_neg (by decide), unsorted]
    exact List.mergeSort_of_pairwise (by decide +kernel)
  have all : shopStatement.groupKeys [] shopRows = [[.null]] := by
    have unsorted : (shopRows.map (shopStatement.groupKey [])).eraseDups = [[.null]] := by decide
    unfold Statement.groupKeys
    rw [if_neg (by decide), unsorted]
    exact List.mergeSort_singleton _
  have sets : shopStatement.groupingSetList = [[], [shopField]] := by decide
  unfold MemoryDatabase.groups
  rw [sets, List.flatMap_cons, List.flatMap_singleton, shops, all]
  rfl

theorem shopStatement_received (number : Nat) :
    shopEngine.receive number shopStatement = .ok shopTable := by
  have aggregates : MemoryDatabase.Aggregates shopStatement shopRows := by
    intro group listed measure asked
    obtain rfl := List.mem_singleton.mp asked
    rw [shopStatement_groups] at listed
    simp only [List.mem_cons, List.not_mem_nil, or_false] at listed
    rcases listed with rfl | rfl | rfl <;> exact ⟨_, rfl⟩
  have answered : shopEngine.answer number shopStatement = .ok
      ⟨[⟨.grouping "shop" .string, [.null, .str "north", .str "south"]⟩,
        ⟨.measure "total" .long, [.int 25, .int 12, .int 13]⟩]⟩ := by
    refine MemoryDatabase.answer_eq_ok.mpr ⟨rfl, shopRows, rfl, aggregates,
      MemoryDatabase.ofRows_lines_eq_ok.mpr ⟨congrArg Table.mk ?_, Table.checkColumns_eq_ok.mp rfl⟩⟩
    unfold MemoryDatabase.frontColumns MemoryDatabase.measureColumn
    rw [shopStatement_groups]
    rfl
  unfold Engine.receive
  rw [answered]
  rfl

theorem shopQuery_planned : PlannedQuery.of shopEngine shopQuery =
    .ok ⟨shopQuery, totalPlan shopQuery (Scope.ofQuery shopQuery).key,
      [shopTask (Scope.ofQuery shopQuery).key]⟩ := by
  have tasks (key : ScopeKey) : shopEngine.tasks (totalPlan shopQuery key) = .ok [shopTask key] :=
    Plan.tasks_of_alone rfl (totalPlan_databaseMeasures (List.mem_singleton_self key)) rfl ⟨_, rfl⟩
  unfold PlannedQuery.of
  rw [totalPlan_built shopQuery_asks, ok_bind, tasks]
  rfl

theorem shopQuery_direct :
    (Session.execute shopEngine (.ofCache .disabled) shopQuery).2 = .ok shopTable := by
  have alone : (Session.ofCache .disabled).cacheFor shopQuery = .disabled := rfl
  have ordered : shopTable.ordered [] = .ok shopTable := by
    refine bind_eq_ok.mpr ⟨_, rfl, ?_⟩
    rw [List.mergeSort_of_pairwise (by decide +kernel)]
    rfl
  rw [Session.execute_eq_result shopQuery_planned, alone]
  have gathered (key : ScopeKey) : Plan.gather [shopTask key]
      ((Session.ofCache .disabled).runTasks shopEngine [shopTask key]).2 = .ok [(key, shopTable)] :=
    Session.gather_alone (List.cons_ne_nil _ _) rfl (shopStatement_received 0) rfl
  exact bind_eq_ok.mpr ⟨_, gathered _, totalPlan_result _ rfl ordered⟩

/-- No shop is taken for the total of all. -/
theorem shopQuery_tells : shopQuery.TotalsTell .generic shopDatastore [("sales", shopRows)] := by
  intro planned made task listed rows selected
  obtain rfl := Except.ok.inj (shopQuery_planned.symm.trans made)
  obtain rfl := List.mem_singleton.mp listed
  obtain rfl : shopRows = rows := Except.ok.inj selected
  unfold MemoryDatabase.TotalsTell MemoryDatabase.ReadsAsTotal
  decide

theorem shopQuery_markersApart : shopQuery.MarkersApart shopEngine := by
  intro planned made task listed
  obtain rfl := Except.ok.inj (shopQuery_planned.symm.trans made)
  obtain rfl := List.mem_singleton.mp listed
  exact nofun

namespace Session

theorem shops_once (capacity : Nat) : ((fresh capacity).execute shopEngine shopQuery).2 = .ok shopTable :=
  execute_alike (Engine.columnwise_ofRows ..) shopQuery_markersApart (fresh_lacks capacity shopQuery)
    (lacks_of_disabled rfl shopQuery) shopQuery_direct

/-- The totals of the shops are the same the second time, and nothing is sent for them. -/
theorem shops_twice :
    let again := ((fresh 100).execute shopEngine shopQuery).1
    ((fresh 100).execute shopEngine shopQuery).2 = .ok shopTable ∧
      (again.execute shopEngine shopQuery).2 = .ok shopTable ∧
      (again.execute shopEngine shopQuery).1.sent = again.sent := by
  have keys : (Reach.ofQueries [shopQuery]).KeysTellApart := shopQuery_asks.keys (by simp)
  obtain ⟨second, tells, silent⟩ := execute_twice 100 shopQuery shopTable keys shopQuery_markersApart nofun
    (shops_once 100)
  have grouped : ¬((fresh 100).execute shopEngine shopQuery).1.LosesRows shopQuery shopTable :=
    fun loses => absurd loses.1 (List.cons_ne_nil _ _)
  exact ⟨shops_once 100, (second (tells shopQuery_tells)).1 grouped,
    silent _ shopQuery_planned rfl (show 1 ≤ 100 by decide)⟩

end Session

end CubeQuery
