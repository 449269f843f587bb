import CubeQuery.Execution.Executor
import CubeQuery.Proofs.Plan.Lowering
import CubeQuery.Proofs.Plan.Planned

/-! The tasks of a plan. A task asks for at least one measure, no two of its measures have one label,
and its statement for some of its measures is the statement of its scope for those. -/

namespace CubeQuery

open Steps

namespace Plan

variable {plan : Plan} {query : Query}

theorem databaseMeasures_labels (built : plan.WellBuilt query) {key : ScopeKey} {measures : List Measure}
    (asked : plan.databaseMeasures key = .ok measures) :
    measures ≠ [] ∧ (measures.map Measure.label).Nodup := by
  unfold databaseMeasures at asked
  obtain ⟨all, all_eq, rest⟩ := bind_eq_ok.mp asked
  have labels_eq : all.map Measure.label =
      (plan.graph.nodes.filter (·.scope = key)).map PlanNode.measure :=
    map_eq_of_mapM all_eq fun _ _ _ _ got => Arena.label_of_find? (Arena.get_eq_ok.mp got)
  have distinct : (all.map Measure.label).Nodup := by
    rw [labels_eq]
    refine List.Nodup.map_on ?_ (built.wellFormed.distinct.filter _)
    intro node listed other otherListed same
    have here : node.scope = key := of_decide_eq_true (List.mem_filter.mp listed).2
    have there : other.scope = key := of_decide_eq_true (List.mem_filter.mp otherListed).2
    obtain ⟨scope, measure⟩ := node
    obtain ⟨otherScope, otherMeasure⟩ := other
    simp_all
  cases primitive : all.filter Measure.isPrimitive with
  | nil =>
    rw [primitive] at rest
    obtain rfl := Except.ok.inj rest
    simp
  | cons first others =>
    rw [primitive] at rest
    obtain rfl := Except.ok.inj rest
    rw [← primitive]
    refine ⟨by rw [primitive]; exact List.cons_ne_nil _ _, ?_⟩
    exact distinct.sublist (List.filter_sublist.map _)

/-- A task whose statement can be written. -/
structure ScopeTask.Compiled (engine : Engine) (task : ScopeTask) : Prop where
  keyed : task.key = task.scope.key
  lowered : task.scope.lower engine.datastore task.measures = .ok task.statement
  written : ∃ text, engine.sql task.statement = .ok text
  asked : task.measures ≠ []
  labels : (task.measures.map Measure.label).Nodup

/-- There is a task for each scope of a plan, in the order of discovery. -/
theorem tasks_spec (built : plan.WellBuilt query) {engine : Engine} {tasks : List ScopeTask}
    (compiled : engine.tasks plan = .ok tasks) :
    tasks.map ScopeTask.key = plan.scopeKeys ∧ ∀ task ∈ tasks, task.Compiled engine ∧
      plan.databaseMeasures task.key = .ok task.measures ∧
      plan.discovery.scopes.lookup task.key = some task.scope := by
  unfold Engine.tasks at compiled
  obtain ⟨planned, planned_eq, compiled⟩ := bind_eq_ok.mp compiled
  obtain ⟨_, written, compiled⟩ := bind_eq_ok.mp compiled
  obtain rfl := Except.ok.inj compiled
  have taskOf {key : ScopeKey} {task : ScopeTask} (made : plan.task engine.datastore key = .ok task) :
      task.key = key ∧ plan.databaseMeasures key = .ok task.measures ∧
        plan.discovery.scopes.lookup key = some task.scope ∧
        task.scope.lower engine.datastore task.measures = .ok task.statement := by
    unfold Plan.task at made
    obtain ⟨measures, measures_eq, made⟩ := bind_eq_ok.mp made
    obtain ⟨scope, scope_eq, made⟩ := bind_eq_ok.mp made
    obtain ⟨statement, lowered, made⟩ := bind_eq_ok.mp made
    obtain rfl := Except.ok.inj made
    exact ⟨rfl, measures_eq, Discovery.scope_eq_ok.mp scope_eq, lowered⟩
  refine ⟨?_, fun task listed => ?_⟩
  · rw [map_eq_of_mapM planned_eq fun _ _ _ _ made => (taskOf made).1, List.map_id']
  · obtain ⟨key, -, made⟩ := exists_of_mem_mapM planned_eq listed
    obtain ⟨rfl, measures_eq, scope_eq, lowered⟩ := taskOf made
    obtain ⟨text, text_eq, -⟩ := bind_eq_ok.mp (forM_eq_ok written task listed)
    obtain ⟨asked, labels⟩ := databaseMeasures_labels built measures_eq
    exact ⟨⟨(built.keyed scope_eq).symm, lowered, ⟨text, text_eq⟩, asked, labels⟩, measures_eq, scope_eq⟩

theorem exists_task_of_lookup (built : plan.WellBuilt query) {engine : Engine} {tasks : List ScopeTask}
    (compiled : engine.tasks plan = .ok tasks) {key : ScopeKey} {scope : Scope}
    (found : plan.discovery.scopes.lookup key = some scope) :
    ∃ task ∈ tasks, task.key = key ∧ task.scope = scope := by
  obtain ⟨keys_eq, each⟩ := tasks_spec built compiled
  have listed : key ∈ tasks.map ScopeTask.key := by
    rw [keys_eq]
    exact Discovery.lookup_isSome_iff.mp (Option.isSome_iff_exists.mpr ⟨scope, found⟩)
  obtain ⟨task, member, rfl⟩ := List.mem_map.mp listed
  exact ⟨task, member, rfl, Option.some.inj ((each task member).2.2.symm.trans found)⟩

/-- The query's own scope comes first. -/
theorem exists_root_task (built : plan.WellBuilt query) {engine : Engine} {tasks : List ScopeTask}
    (compiled : engine.tasks plan = .ok tasks) :
    ∃ task ∈ tasks.head?, task.key = plan.root ∧ task.scope = .ofQuery query := by
  obtain ⟨keys_eq, each⟩ := tasks_spec built compiled
  obtain ⟨others, scopes_eq⟩ := built.rootFirst
  unfold scopeKeys at keys_eq
  rw [scopes_eq, List.map_cons] at keys_eq
  cases tasks with
  | nil => cases keys_eq
  | cons first rest =>
    rw [List.map_cons] at keys_eq
    have root : first.key = plan.root := (List.cons.inj keys_eq).1
    have scope := (each first List.mem_cons_self).2.2
    rw [root, built.rootScope] at scope
    exact ⟨first, rfl, root, (Option.some.inj scope).symm⟩

/-- A plan with one scope has one task. -/
theorem tasks_of_alone {engine : Engine} {key : ScopeKey} {scope : Scope} {measures : List Measure}
    {statement : Statement} (alone : plan.discovery.scopes = [(key, scope)])
    (asked : plan.databaseMeasures key = .ok measures)
    (lowered : scope.lower engine.datastore measures = .ok statement)
    (written : ∃ text, engine.sql statement = .ok text) :
    engine.tasks plan = .ok [⟨key, scope, measures, statement⟩] := by
  obtain ⟨text, text_eq⟩ := written
  have known : plan.scope key = .ok scope := Discovery.scope_eq_ok.mpr (by simp [alone])
  have made : plan.task engine.datastore key = .ok ⟨key, scope, measures, statement⟩ := by
    unfold task
    rw [asked, ok_bind, known, ok_bind, lowered]
    rfl
  have keys : plan.scopeKeys = [key] := by
    unfold scopeKeys
    rw [alone]
    rfl
  unfold Engine.tasks tasks
  rw [keys, List.mapM_cons, made, List.mapM_nil]
  exact bind_eq_ok.mpr ⟨_, rfl, bind_eq_ok.mpr ⟨(), by simp [text_eq], rfl⟩⟩

namespace ScopeTask

variable {engine : Engine} {task : ScopeTask}

/-- A measure of the task with its fields typed. -/
def typed (task : ScopeTask) (measure : Measure) : TypedMeasure :=
  (task.statement.measures.find? fun typed => typed.label = measure.label).getD default

theorem Compiled.typed_spec (compiled : task.Compiled engine) :
    task.statement.measures = task.measures.map task.typed ∧ ∃ resolver,
      (∀ measure ∈ task.measures, measure.lower resolver = .ok (task.typed measure)) ∧
      ∀ others typed, others.mapM (Measure.lower resolver) = .ok typed →
        task.scope.lower engine.datastore others = .ok (task.statement.withMeasures typed) := by
  obtain ⟨resolver, -, typed_eq, rest⟩ := Scope.lower_eq_ok compiled.lowered
  have labels_eq : task.statement.measures.map TypedMeasure.label = task.measures.map Measure.label :=
    map_eq_of_mapM typed_eq fun _ _ _ _ lowered => Measure.label_of_lower lowered
  have distinct := compiled.labels
  rw [← labels_eq] at distinct
  have typed_of {measure : Measure} {typed : TypedMeasure} (listed : typed ∈ task.statement.measures)
      (lowered : measure.lower resolver = .ok typed) : task.typed measure = typed := by
    have label := Measure.label_of_lower lowered
    unfold ScopeTask.typed
    cases found : task.statement.measures.find? fun typed => typed.label = measure.label with
    | none =>
      have absent := List.find?_eq_none.mp found typed listed
      exact absurd (decide_eq_true label) absent
    | some other =>
      have same : other.label = measure.label := by simpa using List.find?_some found
      exact List.inj_on_of_nodup_map distinct (List.mem_of_find?_eq_some found) listed
        (same.trans label.symm)
  refine ⟨?_, resolver, fun measure listed => ?_, rest⟩
  · have mapped : task.statement.measures.map id = task.measures.map task.typed :=
      map_eq_of_mapM typed_eq fun _ _ _ listed lowered => (typed_of listed lowered).symm
    rwa [List.map_id] at mapped
  · obtain ⟨typed, member, lowered⟩ := mem_of_mapM typed_eq listed
    rw [typed_of member lowered, lowered]

theorem Compiled.label_typed (compiled : task.Compiled engine) {measure : Measure}
    (listed : measure ∈ task.measures) : (task.typed measure).label = measure.label := by
  obtain ⟨-, resolver, lowered, -⟩ := compiled.typed_spec
  exact Measure.label_of_lower (lowered measure listed)

/-- The statement of the scope for some measures of a task. -/
theorem Compiled.lower_eq (compiled : task.Compiled engine) {measures : List Measure}
    (fewer : measures ⊆ task.measures) : task.scope.lower engine.datastore measures =
      .ok (task.statement.withMeasures (measures.map task.typed)) := by
  obtain ⟨-, resolver, lowered, rest⟩ := compiled.typed_spec
  refine rest measures _ (mapM_eq_ok.mpr (List.forall₂_map_right_iff.mpr ?_))
  exact List.forall₂_same.mpr fun measure listed => lowered measure (fewer listed)

/-- The statement for some measures of a task. -/
theorem Compiled.statementFor_eq (compiled : task.Compiled engine) (wanted : Measure → Bool) :
    task.statementFor (task.measures.filter wanted) =
      task.statement.withMeasures ((task.measures.filter wanted).map task.typed) := by
  have measures_eq := compiled.typed_spec.1
  have kept : (task.measures.filter fun measure => (task.measures.filter wanted).any
      fun other => other.label = (task.typed measure).label) = task.measures.filter wanted := by
    refine List.filter_congr fun measure listed => ?_
    rw [Bool.eq_iff_iff, List.any_eq_true, compiled.label_typed listed]
    constructor
    · rintro ⟨other, member, same⟩
      obtain ⟨otherListed, isWanted⟩ := List.mem_filter.mp member
      rwa [← List.inj_on_of_nodup_map compiled.labels otherListed listed (of_decide_eq_true same)]
    · exact fun isWanted => ⟨measure, List.mem_filter.mpr ⟨listed, isWanted⟩, decide_eq_true rfl⟩
  unfold statementFor
  rw [measures_eq, List.filter_map]
  exact congrArg (fun measures => task.statement.withMeasures (measures.map task.typed)) kept

end ScopeTask

end Plan

end CubeQuery
