import CubeQuery.Proofs.Cache.Entries
import CubeQuery.Proofs.Plan.Tasks

/-! Fetching the measures of a scope through a cache whose entries are genuine. Whatever was evicted in
between, the entries stay genuine, and what is fetched has the columns that the database would give. -/

namespace CubeQuery

open Steps

/-- The scopes and the measures that come up in a run. -/
structure Reach where
  scopes : Scope → Prop
  measures : Measure → Prop

/-! ### Answers to a task -/

namespace Engine

variable {engine : Engine} {frame : Statement → List Column} {column : Statement → TypedMeasure → Column}
  {task : Plan.ScopeTask}

/-- The columns that the database has for a task. -/
def layoutOf (engine : Engine) (frame : Statement → List Column)
    (column : Statement → TypedMeasure → Column) (task : Plan.ScopeTask) : Layout :=
  ⟨engine.framed frame task.statement.core, fun measure =>
    column task.statement.core (task.typed measure)⟩

theorem delivered_eq (task : Plan.ScopeTask) (measures : List Measure) :
    engine.delivered frame column (task.statement.withMeasures (measures.map task.typed)) =
      (engine.layoutOf frame column task).table measures := by
  unfold delivered Layout.table layoutOf
  rw [Statement.core_withMeasures, Statement.measures_withMeasures, List.map_map]
  rfl

theorem Delivers.fits {measures : List Measure}
    (delivers : engine.Delivers frame column (task.statement.withMeasures (measures.map task.typed)))
    (labels : ∀ measure ∈ measures, (task.typed measure).label = measure.label) :
    (engine.layoutOf frame column task).Fits measures where
  formed := by
    have formed := delivers.formed
    rwa [delivered_eq] at formed
  grouping := delivers.grouping
  measured := by
    intro measure listed
    obtain ⟨measured, name⟩ := delivers.measures (task.typed measure) (List.mem_map_of_mem listed)
    exact ⟨measured, name.trans (labels measure listed)⟩

theorem execute_of_sql {statement : Statement} {text : String} (sent : List String)
    (written : engine.sql statement = .ok text) :
    engine.execute sent statement = (sent ++ [text], engine.receive sent.length statement) := by
  unfold Engine.execute
  rw [written]

theorem receive_of_execute {sent after : List String} {statement : Statement} {table : Table}
    (executed : engine.execute sent statement = (after, .ok table)) :
    engine.receive sent.length statement = .ok table := by
  unfold Engine.execute at executed
  split at executed
  · cases executed
  · exact (Prod.mk.inj executed).2

theorem answered_of_receive {number : Nat} {statement : Statement} {table : Table}
    (received : engine.receive number statement = .ok table) :
    ∃ raw, engine.answer number statement = .ok raw := by
  unfold Engine.receive at received
  obtain ⟨raw, answered, -⟩ := bind_eq_ok.mp received
  exact ⟨raw, answered⟩

/-- An entry that holds what the database has for its measure, of a scope and a measure that came
up. -/
def Genuine (engine : Engine) (frame : Statement → List Column)
    (column : Statement → TypedMeasure → Column) (reach : Reach) (entry : CacheEntry) : Prop :=
  ∃ scope measure statement, reach.scopes scope ∧ reach.measures measure ∧
    entry.key = .of scope.key measure ∧ scope.lower engine.datastore [measure] = .ok statement ∧
    engine.Delivers frame column statement ∧ entry.table = engine.delivered frame column statement

variable {reach : Reach}

/-- What is answered for some measures of a task is delivered for them. -/
theorem Columnwise.delivers_some (backend : engine.Columnwise frame column)
    (compiled : task.Compiled engine)
    (apart : task.statement.MarkersApart engine.dialect.groupingMarkers) {measures : List Measure}
    (fewer : measures ⊆ task.measures) (asked : measures ≠ []) {number : Nat} {raw : Table}
    (answered : engine.answer number (task.statement.withMeasures (measures.map task.typed)) = .ok raw) :
    engine.Delivers frame column (task.statement.withMeasures (measures.map task.typed)) := by
  obtain ⟨text, written⟩ := compiled.written
  have someMeasures : measures.map task.typed ⊆ task.statement.measures := by
    rw [compiled.typed_spec.1]
    exact List.map_subset _ fewer
  exact backend.delivers (by simpa using check_of_sql written) (apart.withMeasures someMeasures)
    (fun none => asked (List.map_eq_nil_iff.mp none)) answered

/-- What is received for some measures of a task. -/
theorem Columnwise.received (backend : engine.Columnwise frame column) (compiled : task.Compiled engine)
    (apart : task.statement.MarkersApart engine.dialect.groupingMarkers) {wanted : Measure → Bool}
    {number : Nat} {table : Table} (asked : task.measures.filter wanted ≠ [])
    (received : engine.receive number (task.statementFor (task.measures.filter wanted)) = .ok table) :
    table = (engine.layoutOf frame column task).table (task.measures.filter wanted) ∧
      (engine.layoutOf frame column task).Fits (task.measures.filter wanted) := by
  obtain ⟨raw, answered⟩ := answered_of_receive received
  rw [compiled.statementFor_eq] at answered received
  have delivers := backend.delivers_some compiled apart List.filter_sublist.subset asked answered
  constructor
  · rw [delivers.received, delivered_eq] at received
    exact (Except.ok.inj received).symm
  · exact delivers.fits fun measure listed => compiled.label_typed (List.mem_of_mem_filter listed)

/-- What is received for a measure of a task makes a genuine entry. -/
theorem Columnwise.genuine (backend : engine.Columnwise frame column) (compiled : task.Compiled engine)
    (apart : task.statement.MarkersApart engine.dialect.groupingMarkers) {wanted : Measure → Bool}
    {number : Nat} {table : Table} {measure : Measure} (listed : measure ∈ task.measures.filter wanted)
    (asksFor : reach.scopes task.scope ∧ reach.measures measure)
    (received : engine.receive number (task.statementFor (task.measures.filter wanted)) = .ok table) :
    engine.Genuine frame column reach
      ⟨.of task.key measure, (engine.layoutOf frame column task).table [measure]⟩ := by
  obtain ⟨raw, answered⟩ := answered_of_receive received
  rw [compiled.statementFor_eq] at answered
  have alone : [measure] ⊆ task.measures :=
    List.cons_subset.mpr ⟨List.mem_of_mem_filter listed, List.nil_subset _⟩
  have single : ([measure].map task.typed).Sublist ((task.measures.filter wanted).map task.typed) :=
    (List.singleton_sublist.mpr listed).map _
  obtain ⟨one, oneAnswered⟩ := backend.again answered number _ (List.cons_ne_nil _ _) single
  rw [Statement.withMeasures_withMeasures] at oneAnswered
  refine ⟨task.scope, measure, _, asksFor.1, asksFor.2, ?_, compiled.lower_eq alone,
    backend.delivers_some compiled apart alone (List.cons_ne_nil _ _) oneAnswered,
    (delivered_eq task [measure]).symm⟩
  rw [compiled.keyed]

end Engine

/-! ### The entries of a cache that may be switched off -/

namespace QueryCache

def entries : QueryCache → List CacheEntry
  | .disabled => []
  | .memory cache => cache.entries

theorem entries_merge (cache : QueryCache) (scope : ScopeKey) (result : Table) (measures : List Measure) :
    (cache.merge scope result measures).1.entries = cache.entries := by
  cases cache with
  | disabled => rfl
  | memory cache => exact cache.entries_merge scope result measures

theorem merge_extends (cache : QueryCache) (scope : ScopeKey) (result : Table) (measures : List Measure) :
    ∃ added, (cache.merge scope result measures).2.1 = result.extend added ∧
      ∀ column ∈ added, column.header.isMeasure = true := by
  cases cache with
  | disabled => exact ⟨[], (Table.extend_nil result).symm, by simp⟩
  | memory cache => exact cache.merge_extends scope result measures

theorem forall_store {P : CacheEntry → Prop} {cache : QueryCache} {scope : ScopeKey} {result : Table}
    {measures : List Measure} (before : ∀ entry ∈ cache.entries, P entry)
    (new : ∀ measure ∈ measures, ∀ table,
      result.project (result.groupingNames ++ [measure.label]) = .ok table → P ⟨.of scope measure, table⟩) :
    ∀ entry ∈ (cache.store scope result measures).1.entries, P entry := by
  cases cache with
  | disabled => exact before
  | memory cache => exact MemoryCache.forall_store before new

end QueryCache

/-! ### Genuine entries stay genuine -/

namespace Plan.ScopeTask

theorem lookup_eq (task : ScopeTask) (cache : QueryCache) :
    task.lookup cache =
      (task.measures.filter fun measure => cache.contains task.key measure,
        task.measures.filter fun measure => !cache.contains task.key measure) :=
  List.partition_eq_filter_filter

theorem forall_complete {P : CacheEntry → Prop} {task : ScopeTask} {cache : QueryCache}
    {cached missing : List Measure} {answer : Table} (before : ∀ entry ∈ cache.entries, P entry)
    (new : ∀ measure ∈ missing, ∀ added, (∀ column ∈ added, column.header.isMeasure = true) →
      ∀ table, (answer.extend added).project (answer.groupingNames ++ [measure.label]) = .ok table →
        P ⟨.of task.key measure, table⟩) :
    ∀ entry ∈ (task.complete cache cached missing answer).1.entries, P entry := by
  obtain ⟨added, merged_eq, measured⟩ := cache.merge_extends task.key answer cached
  have read := cache.entries_merge task.key answer cached
  unfold complete
  rw [← read] at before
  generalize cache.merge task.key answer cached = result at merged_eq before ⊢
  obtain ⟨after, merged, outcome⟩ := result
  simp only at merged_eq before ⊢
  split
  · exact before
  · exact before
  · split
    · exact before
    · refine QueryCache.forall_store before fun measure listed table projected => ?_
      rw [merged_eq, Table.groupingNames_extend measured] at projected
      exact new measure listed added measured table projected

theorem forall_completeRaw {P : CacheEntry → Prop} {task : ScopeTask} {cache : QueryCache}
    {cached : List Measure} (before : ∀ entry ∈ cache.entries, P entry) :
    ∀ entry ∈ (task.completeRaw cache cached).1.entries, P entry := by
  unfold completeRaw
  split
  · exact before
  · exact before
  · exact forall_complete before fun _ listed => absurd listed List.not_mem_nil

end Plan.ScopeTask

section

variable {engine : Engine} {frame : Statement → List Column} {column : Statement → TypedMeasure → Column}
  {reach : Reach} {task : Plan.ScopeTask}

/-- A task of a run, whose columns can be told apart from those that mark totals. -/
structure Plan.ScopeTask.Sound (engine : Engine) (reach : Reach) (task : Plan.ScopeTask) : Prop where
  compiled : task.Compiled engine
  apart : task.statement.MarkersApart engine.dialect.groupingMarkers
  scope : reach.scopes task.scope
  measures : ∀ measure ∈ task.measures, reach.measures measure

theorem Engine.Columnwise.genuine_projection (backend : engine.Columnwise frame column)
    (sound : task.Sound engine reach) {wanted : Measure → Bool} {number : Nat} {answer : Table}
    (received : engine.receive number (task.statementFor (task.measures.filter wanted)) = .ok answer)
    {measure : Measure} (listed : measure ∈ task.measures.filter wanted) {added : List Column}
    {table : Table}
    (projected : (answer.extend added).project (answer.groupingNames ++ [measure.label]) = .ok table) :
    engine.Genuine frame column reach ⟨.of task.key measure, table⟩ := by
  obtain ⟨rfl, fits⟩ := backend.received sound.compiled sound.apart (List.ne_nil_of_mem listed) received
  rw [Table.project_extend (fits.project_measure listed)] at projected
  obtain rfl := Except.ok.inj projected
  exact backend.genuine sound.compiled sound.apart listed
    ⟨sound.scope, sound.measures measure (List.mem_of_mem_filter listed)⟩ received

theorem Session.settle_genuine (backend : engine.Columnwise frame column)
    (sound : task.Sound engine reach) {session : Session}
    (before : ∀ entry ∈ session.cache.entries, engine.Genuine frame column reach entry)
    (outcome : Except QueryError (Option Table)) :
    ∀ entry ∈ (session.settle engine task outcome).1.cache.entries,
      engine.Genuine frame column reach entry := by
  match outcome with
  | .error error => exact before
  | .ok (some table) => exact before
  | .ok none =>
    unfold settle refetch send
    rcases executed : engine.execute session.sent (task.statementFor task.measures) with ⟨sent, answer⟩
    cases answer with
    | error error => exact before
    | ok table =>
      have every : task.measures.filter (fun _ => true) = task.measures :=
        List.filter_eq_self.mpr fun _ _ => rfl
      have received := Engine.receive_of_execute executed
      rw [← every] at received
      refine QueryCache.forall_store before fun measure listed projection projected => ?_
      have plain : (table.extend []).project (table.groupingNames ++ [measure.label]) =
          .ok projection := by rwa [Table.extend_nil]
      exact backend.genuine_projection sound received (by rwa [every]) plain

/-- A fetch leaves genuine entries only, whether it succeeds or not. -/
theorem Session.fetch_genuine (backend : engine.Columnwise frame column)
    (sound : task.Sound engine reach) {session : Session}
    (before : ∀ entry ∈ session.cache.entries, engine.Genuine frame column reach entry) :
    ∀ entry ∈ (session.fetch engine task).1.cache.entries, engine.Genuine frame column reach entry := by
  unfold fetch
  rw [task.lookup_eq]
  simp only
  split
  · exact settle_genuine backend sound (Plan.ScopeTask.forall_completeRaw before) _
  · unfold send
    rcases executed : engine.execute session.sent (task.statementFor (task.measures.filter fun measure =>
      !session.cache.contains task.key measure)) with ⟨sent, answer⟩
    refine settle_genuine backend sound ?_ _
    cases answer with
    | error error => exact before
    | ok table =>
      refine Plan.ScopeTask.forall_complete before fun measure listed added _ projection projected => ?_
      exact backend.genuine_projection sound (Engine.receive_of_execute executed) listed projected

end

end CubeQuery
