import CubeQuery.Proofs.Cache.Fresh
import CubeQuery.Proofs.Restriction.Answers
import CubeQuery.Proofs.Restriction.Evaluation

/-! The tables that two runs start with, that of a query and that of the query without its filters after
grouping. The own scope of the query has some of the rows of the other, and the scopes that are derived
from it have the same rows in both. -/

namespace CubeQuery

open Steps

/-! ### Measures of the database -/

/-- No other measure has the label by which rows are counted. -/
def Arena.CountsRows (arena : Arena) : Prop :=
  ∀ measure, arena.find? Measure.countLabel = some measure → measure = .defaultCount

namespace Plan

variable {plan free : Plan} {query : Query}

/-- What the database computes is primitive and defined by the query, or counts rows. -/
theorem databaseMeasures_known {key : ScopeKey} {measures : List Measure}
    (asked : plan.databaseMeasures key = .ok measures) {measure : Measure} (listed : measure ∈ measures) :
    measure.isPrimitive = true ∧
      (plan.arena.find? measure.label = some measure ∨ measure = .defaultCount) := by
  rcases databaseMeasures_cases asked with rfl | planned
  · obtain rfl := List.mem_singleton.mp listed
    exact ⟨rfl, .inr rfl⟩
  · obtain ⟨primitive, node, -, -, found⟩ := planned measure listed
    rw [Arena.label_of_find? found]
    exact ⟨primitive, .inl found⟩

/-- One label stands for one measure of the database, in either plan. -/
theorem databaseMeasures_agree (sameArena : free.arena = plan.arena) (counts : plan.arena.CountsRows)
    {key other : ScopeKey} {measures others : List Measure}
    (asked : plan.databaseMeasures key = .ok measures) (otherAsked : free.databaseMeasures other = .ok others) :
    ∀ measure ∈ measures, ∀ another ∈ others, measure.label = another.label → measure = another := by
  intro measure listed another otherListed same
  have known := (databaseMeasures_known asked listed).2
  have otherKnown := (databaseMeasures_known otherAsked otherListed).2
  rw [sameArena, ← same] at otherKnown
  rcases known with found | rfl
  · rcases otherKnown with otherFound | rfl
    · exact Option.some.inj (found.symm.trans otherFound)
    · rw [same] at found
      exact counts measure found
  · rcases otherKnown with otherFound | rfl
    · exact (counts another otherFound).symm
    · rfl

/-! ### Tasks -/

/-- A task of a plan whose columns can be told apart from those that mark totals. -/
structure Serves (engine : Engine) (plan : Plan) (task : ScopeTask) : Prop where
  compiled : task.Compiled engine
  apart : task.statement.MarkersApart engine.dialect.groupingMarkers
  asked : plan.databaseMeasures task.key = .ok task.measures
  scope : plan.discovery.scopes.lookup task.key = some task.scope

end Plan

theorem PlannedQuery.serves {engine : Engine} {query : Query} (markers : query.MarkersApart engine)
    {planned : PlannedQuery} (made : PlannedQuery.of engine query = .ok planned) :
    (∀ task ∈ planned.tasks, planned.plan.Serves engine task) ∧
      ∀ {key scope}, planned.plan.discovery.scopes.lookup key = some scope →
        ∃ task ∈ planned.tasks, task.key = key ∧ task.scope = scope := by
  obtain ⟨-, planBuilt, tasks_eq⟩ := of_eq_ok made
  have built := Plan.wellBuilt_of_build planBuilt
  refine ⟨fun task listed => ?_, Plan.exists_task_of_lookup built tasks_eq⟩
  obtain ⟨compiled, asked, found⟩ := (Plan.tasks_spec built tasks_eq).2 task listed
  exact ⟨compiled, markers planned made task listed, asked, found⟩

/-! ### Tables -/

section

variable {engine : Engine} {frame : Statement → List Column} {column : Statement → TypedMeasure → Column}
  {plan free : Plan} {query : Query} {tasks others : List Plan.ScopeTask} {tables wholes : ScopeTables}

theorem ScopeTables.Give.task (give : tables.Give engine tasks) {key : ScopeKey} {table : Table}
    (found : tables.lookup key = some table) : ∃ task ∈ tasks, task.key = key ∧ task.Gives engine table := by
  obtain ⟨task, listed, rfl⟩ := give.only found
  obtain ⟨given, givenFound, gives⟩ := give.each task listed
  obtain rfl := Option.some.inj (found.symm.trans givenFound)
  exact ⟨task, listed, rfl, gives⟩

theorem ScopeTables.Give.formed (give : tables.Give engine tasks) (backend : engine.Columnwise frame column)
    (serves : ∀ task ∈ tasks, plan.Serves engine task) : tables.Formed := by
  intro key table found
  obtain ⟨task, listed, -, number, raw, received, expanded⟩ := give.task found
  have served := serves task listed
  obtain ⟨rfl, fits, -⟩ := backend.received_all served.compiled served.apart received
  refine ⟨fits.formed.expandBuckets expanded, Table.nonempty_expandBuckets ?_ expanded⟩
  simpa [Layout.table] using fun _ => served.compiled.asked

/-- No table has a column of a measure in memory yet. -/
theorem ScopeTables.Give.stored (give : tables.Give engine tasks) (backend : engine.Columnwise frame column)
    (counts : plan.arena.CountsRows) (serves : ∀ task ∈ tasks, plan.Serves engine task) :
    plan.Stored tables := by
  intro key table column found columnListed isMeasure
  obtain ⟨task, listed, -, number, raw, received, expanded⟩ := give.task found
  have served := serves task listed
  obtain ⟨rfl, fits, -⟩ := backend.received_all served.compiled served.apart received
  obtain ⟨before, member, header⟩ := Table.exists_of_expandBuckets expanded columnListed isMeasure
  have name_eq : column.name = before.name := congrArg Header.name header.symm
  rw [← header] at isMeasure
  rcases List.mem_append.mp member with front | measured
  · rw [fits.grouping before front] at isMeasure
    cases isMeasure
  · obtain ⟨measure, asked, rfl⟩ := List.mem_map.mp measured
    rw [name_eq, (fits.measured measure asked).2]
    obtain ⟨primitive, known⟩ := Plan.databaseMeasures_known served.asked asked
    unfold Plan.isInMemory
    rcases known with defined | rfl
    · simp [defined, primitive]
    · cases counted : plan.arena.find? Measure.defaultCount.label with
      | none => rfl
      | some other =>
        obtain rfl := counts other counted
        rfl

/-- What two tasks give, if one has the scope of the other without its filters after grouping. -/
theorem Engine.DropsRows.gives (drops : engine.DropsRows frame column)
    (backend : engine.Columnwise frame column) (sameArena : free.arena = plan.arena)
    (counts : plan.arena.CountsRows) {task other : Plan.ScopeTask} (serves : plan.Serves engine task)
    (otherServes : free.Serves engine other) (prefetch : other.scope = task.scope.prefetch)
    {table whole : Table} (gives : task.Gives engine table) (otherGives : other.Gives engine whole) :
    ∃ kept, table.Selects whole kept ∧ (task.scope.prefetch = task.scope → kept = whole.rowIndices) := by
  obtain ⟨number, raw, received, expanded⟩ := gives
  obtain ⟨otherNumber, otherRaw, otherReceived, otherExpanded⟩ := otherGives
  have labels := Plan.databaseMeasures_agree sameArena counts serves.asked otherServes.asked
  have lengths : ∀ column ∈ otherRaw.columns, column.values.length = otherRaw.rowCount := by
    obtain ⟨rfl, fits, -⟩ := backend.received_all otherServes.compiled otherServes.apart otherReceived
    exact fits.formed.lengths
  have sameSet : other.scope.bucketSet = task.scope.bucketSet := by
    rw [prefetch]
    rfl
  by_cases unfiltered : task.scope.prefetch = task.scope
  · have selects := drops.selects_all backend serves.compiled otherServes.compiled
      (prefetch.trans unfiltered) unfiltered serves.apart otherServes.apart labels received otherReceived
    obtain ⟨places, placed, every⟩ := selects.expandBuckets lengths sameSet expanded otherExpanded
    exact ⟨places, placed, fun _ => every rfl⟩
  · obtain ⟨kept, selects⟩ := drops.selects backend serves.compiled otherServes.compiled prefetch
      serves.apart otherServes.apart labels received otherReceived
    obtain ⟨places, placed, -⟩ := selects.expandBuckets lengths sameSet expanded otherExpanded
    exact ⟨places, placed, fun same => absurd same unfiltered⟩

/-- The tables that the two runs start with. -/
theorem ScopeTables.Give.restricts (give : tables.Give engine tasks) (wholesGive : wholes.Give engine others)
    (drops : engine.DropsRows frame column) (backend : engine.Columnwise frame column)
    (freed : plan.FreedBy free query) (counts : plan.arena.CountsRows)
    (serves : ∀ task ∈ tasks, plan.Serves engine task)
    (all : ∀ {key scope}, plan.discovery.scopes.lookup key = some scope →
      ∃ task ∈ tasks, task.key = key ∧ task.scope = scope)
    (otherServes : ∀ task ∈ others, free.Serves engine task)
    (otherAll : ∀ {key scope}, free.discovery.scopes.lookup key = some scope →
      ∃ task ∈ others, task.key = key ∧ task.scope = scope) :
    ∃ kept, plan.Restricts free kept tables wholes := by
  have pairs {scope other : Scope} (planned : plan.discovery.scopes.lookup scope.key = some scope)
      (otherPlanned : free.discovery.scopes.lookup other.key = some other)
      (prefetch : other = scope.prefetch) : ∃ table whole kept,
        tables.lookup scope.key = some table ∧ wholes.lookup other.key = some whole ∧
          table.Selects whole kept ∧ (scope.prefetch = scope → kept = whole.rowIndices) := by
    obtain ⟨task, listed, key_eq, rfl⟩ := all planned
    obtain ⟨otherTask, otherListed, otherKey_eq, rfl⟩ := otherAll otherPlanned
    obtain ⟨table, found, gives⟩ := give.each task listed
    obtain ⟨whole, wholeFound, wholeGives⟩ := wholesGive.each otherTask otherListed
    obtain ⟨kept, selects, every⟩ := drops.gives backend freed.arena counts (serves task listed)
      (otherServes otherTask otherListed) prefetch gives wholeGives
    exact ⟨table, whole, kept, key_eq ▸ found, otherKey_eq ▸ wholeFound, selects, every⟩
  have root := freed.built.rootScope
  have otherRoot := freed.otherBuilt.rootScope
  rw [freed.built.root] at root
  rw [freed.otherBuilt.root, Scope.ofQuery_unrestricted] at otherRoot
  obtain ⟨own, ownWhole, kept, ownFound, ownWholeFound, ownSelects, -⟩ := pairs root otherRoot rfl
  refine ⟨kept, fun scope other rows pair => ?_⟩
  cases pair with
  | own planned otherPlanned isRoot =>
    obtain rfl : scope = .ofQuery query := by
      rw [← isRoot, freed.built.root] at planned
      exact Option.some.inj (planned.symm.trans root)
    exact ⟨own, ownWhole, ownFound, ownWholeFound, ownSelects⟩
  | derived planned otherPlanned =>
    have unfiltered : scope.prefetch = scope := by
      obtain ⟨derivation, -, rfl⟩ := freed.otherBuilt.derived otherPlanned
      rw [Scope.ofQuery_unrestricted, Scope.Derivation.prefetch_apply]
      unfold Scope.Derivation.apply Scope.prefetch
      simp
    obtain ⟨table, whole, _, found, wholeFound, selects, every⟩ :=
      pairs planned otherPlanned unfiltered.symm
    rw [every unfiltered] at selects
    exact ⟨table, whole, found, wholeFound, selects⟩

end

end CubeQuery
