import CubeQuery.Proofs.Plan.Exactness

/-! A plan without vectors derives no scope that is harder to compile than its own: fewer criteria, a
rollup over columns that are selected anyway, and measures that the query's own scope computes as
well. -/

namespace CubeQuery

open Steps

variable {resolver : Resolver} {dialect : Dialect}

/-! ### Criteria -/

namespace Criteria

/-- The criteria can be lowered, and what they are lowered to can be written. -/
def Compiles (resolver : Resolver) (dialect : Dialect) (criteria : Criteria) : Prop :=
  ∃ typed, criteria.lower resolver = .ok typed ∧ ∃ text, typed.sql dialect = .ok text

theorem compiles_list_iff {children : List Criteria} :
    (∃ typed, lowerList resolver children = .ok typed ∧
      ∃ parts, TypedCriteria.parts dialect typed = .ok parts) ↔
    ∀ child ∈ children, child.Compiles resolver dialect := by
  induction children with
  | nil => exact iff_of_true ⟨[], rfl, [], rfl⟩ fun _ listed => absurd listed List.not_mem_nil
  | cons child rest ih =>
    rw [List.forall_mem_cons, ← ih]
    simp only [lowerList, bind_eq_ok, pure_eq_ok, Except.ok.injEq]
    constructor
    · rintro ⟨_, ⟨typed, lowered, others, othersLowered, rfl⟩, parts, written⟩
      unfold TypedCriteria.parts at written
      obtain ⟨text, textWritten, written⟩ := bind_eq_ok.mp written
      obtain ⟨otherParts, othersWritten, -⟩ := bind_eq_ok.mp written
      exact ⟨⟨typed, lowered, text, textWritten⟩, others, othersLowered, otherParts, othersWritten⟩
    · rintro ⟨⟨typed, lowered, text, textWritten⟩, others, othersLowered, otherParts, othersWritten⟩
      refine ⟨typed :: others, ⟨typed, lowered, others, othersLowered, rfl⟩, text.toList ++ otherParts, ?_⟩
      unfold TypedCriteria.parts
      rw [textWritten, ok_bind, othersWritten]
      rfl

theorem compiles_logical_iff {type : ConditionType} {children : List Criteria} :
    (Criteria.logical type children).Compiles resolver dialect ↔
      checkLogical type = .ok () ∧ ∀ child ∈ children, child.Compiles resolver dialect := by
  rw [← compiles_list_iff]
  simp only [Compiles, lower, bind_eq_ok, pure_eq_ok, Except.ok.injEq]
  constructor
  · rintro ⟨_, ⟨typed, lowered, rfl⟩, text, written⟩
    unfold TypedCriteria.sql at written
    obtain ⟨⟨⟩, checked, written⟩ := bind_eq_ok.mp written
    obtain ⟨parts, partsWritten, -⟩ := bind_eq_ok.mp written
    exact ⟨checked, typed, lowered, parts, partsWritten⟩
  · rintro ⟨checked, typed, lowered, parts, partsWritten⟩
    refine ⟨_, ⟨typed, lowered, rfl⟩, ?_⟩
    unfold TypedCriteria.sql
    rw [checked, ok_bind, partsWritten, ok_bind]
    cases parts <;> exact ⟨_, rfl⟩

mutual

/-- Criteria that lose some fields compile if they did before. -/
theorem Compiles.withoutFields (fields : List Field) : (criteria : Criteria) →
    criteria.Compiles resolver dialect → ∀ kept, criteria.withoutFields fields = some kept →
      kept.Compiles resolver dialect
  | .onField field condition, compiles, kept, found => by
    unfold Criteria.withoutFields at found
    by_cases dropped : field ∈ fields
    · rw [if_pos dropped] at found
      cases found
    · rw [if_neg dropped] at found
      exact Option.some.inj found ▸ compiles
  | .onPair _ _ _, compiles, _, found => Option.some.inj found ▸ compiles
  | .onMeasure _ _, compiles, _, found => Option.some.inj found ▸ compiles
  | .logical type children, compiles, kept, found => by
    obtain ⟨checked, each⟩ := compiles_logical_iff.mp compiles
    have left := Compiles.listWithoutFields fields children each
    unfold Criteria.withoutFields at found
    cases remaining : Criteria.listWithoutFields fields children with
    | nil =>
      rw [remaining] at found
      cases found
    | cons first rest =>
      rw [remaining] at found left
      obtain rfl := Option.some.inj found
      exact compiles_logical_iff.mpr ⟨checked, left⟩

theorem Compiles.listWithoutFields (fields : List Field) : (children : List Criteria) →
    (∀ child ∈ children, child.Compiles resolver dialect) →
      ∀ kept ∈ Criteria.listWithoutFields fields children, kept.Compiles resolver dialect
  | [], _, _, listed => absurd listed List.not_mem_nil
  | child :: rest, compiles, kept, listed => by
    obtain ⟨ofChild, ofRest⟩ := List.forall_mem_cons.mp compiles
    unfold Criteria.listWithoutFields at listed
    cases found : child.withoutFields fields with
    | none =>
      rw [found] at listed
      exact Compiles.listWithoutFields fields rest ofRest kept listed
    | some first =>
      rw [found] at listed
      rcases List.mem_cons.mp listed with rfl | later
      · exact Compiles.withoutFields fields child ofChild kept found
      · exact Compiles.listWithoutFields fields rest ofRest kept later

end

theorem compiles_option_iff {criteria : Option Criteria} :
    (∃ typed, lowerOption resolver criteria = .ok typed ∧
      ∃ text, TypedCriteria.optionSql dialect typed = .ok text) ↔
    ∀ one, criteria = some one → one.Compiles resolver dialect := by
  cases criteria with
  | none => exact iff_of_true ⟨none, rfl, none, rfl⟩ nofun
  | some one =>
    simp only [lowerOption, bind_eq_ok, pure_eq_ok, Except.ok.injEq, Option.some.injEq, forall_eq']
    constructor
    · rintro ⟨_, ⟨typed, lowered, rfl⟩, written⟩
      exact ⟨typed, lowered, written⟩
    · rintro ⟨typed, lowered, written⟩
      exact ⟨some typed, ⟨typed, lowered, rfl⟩, written⟩

end Criteria

/-! ### Scopes -/

/-- What a scope that is derived without vectors takes over from its root. -/
structure Scope.Inherits (scope root : Scope) : Prop where
  source : root.SameSource scope
  columns : scope.columns = root.columns
  groupingSets : scope.groupingSets = root.groupingSets
  rollup : scope.rollup ⊆ root.rollup ++ root.columns
  rollsUp : root.groupingSets = [] ∨ scope.rollup = root.rollup
  filter : ∀ kept, scope.whereCriteria = some kept → ∃ criteria, root.whereCriteria = some criteria ∧
    (kept = criteria ∨ ∃ fields, criteria.withoutFields fields = some kept)
  restriction : ∀ kept, scope.havingCriteria = some kept → root.havingCriteria = some kept

namespace Scope.Inherits

variable {scope root : Scope} {source : Option TypedTable × Option Statement}
  {measures others : List Measure} {statement : Statement}

/-- Its rollup resolves to columns that the statement of the root selects. -/
theorem resolves_rollup (inherits : scope.Inherits root)
    (lowers : root.Lowers resolver source measures statement) (checked : statement.check = .ok ()) :
    ∃ rolled, scope.rollup.mapM resolver.resolve = .ok rolled ∧ rolled ⊆ statement.select ∧
      (rolled = [] ∨ statement.groupingSets = []) := by
  obtain ⟨rollupSelected, notBoth, -⟩ := (Statement.check_eq_ok_iff statement).mp checked
  have selected : ∀ field ∈ scope.rollup,
      ∃ typed ∈ statement.select, resolver.resolve field = .ok typed := by
    intro field listed
    rcases List.mem_append.mp (inherits.rollup listed) with rolled | column
    · obtain ⟨typed, member, resolved⟩ := mem_of_mapM lowers.rollup rolled
      exact ⟨typed, rollupSelected member, resolved⟩
    · exact mem_of_mapM lowers.select column
  obtain ⟨rolled, rolled_eq⟩ : ∃ rolled, scope.rollup.mapM resolver.resolve = .ok rolled := by
    apply exists_mapM
    intro field listed
    obtain ⟨typed, -, resolved⟩ := selected field listed
    exact ⟨typed, resolved⟩
  refine ⟨rolled, rolled_eq, ?_, ?_⟩
  · intro typed listed
    obtain ⟨field, member, resolved⟩ := exists_of_mem_mapM rolled_eq listed
    obtain ⟨same, sameListed, sameResolved⟩ := selected field member
    rwa [Except.ok.inj (resolved.symm.trans sameResolved)]
  · rcases notBoth with rollupNil | setsNil
    · have rootNil : root.rollup = [] := by
        have length := (mapM_eq_ok.mp lowers.rollup).length_eq
        rwa [rollupNil, List.length_nil, List.length_eq_zero_iff] at length
      rcases inherits.rollsUp with noSets | same
      · right
        have length := (mapM_eq_ok.mp lowers.groupingSets).length_eq
        rwa [noSets, List.length_nil, eq_comm, List.length_eq_zero_iff] at length
      · left
        rw [same, rootNil] at rolled_eq
        exact (Except.ok.inj rolled_eq).symm
    · exact .inr setsNil

/-- It computes measures of its root, or none that could fail. -/
theorem lowers_measures (lowers : root.Lowers resolver source measures statement)
    (writable : statement.Writable dialect) (fewer : others ⊆ measures ∨ others = [.defaultCount]) :
    ∃ typed, others.mapM (Measure.lower resolver) = .ok typed ∧
      ∀ measure ∈ typed, ∃ text, measure.sql dialect = .ok text := by
  rcases fewer with among | rfl
  · obtain ⟨typed, typed_eq⟩ : ∃ typed, others.mapM (Measure.lower resolver) = .ok typed := by
      apply exists_mapM
      intro measure listed
      obtain ⟨typed, -, lowered⟩ := mem_of_mapM lowers.measures (among listed)
      exact ⟨typed, lowered⟩
    refine ⟨typed, typed_eq, fun measure listed => ?_⟩
    obtain ⟨untyped, member, lowered⟩ := exists_of_mem_mapM typed_eq listed
    obtain ⟨same, sameListed, sameLowered⟩ := mem_of_mapM lowers.measures (among member)
    rw [Except.ok.inj (lowered.symm.trans sameLowered)]
    exact writable.measured same sameListed
  · exact ⟨[.count Measure.countLabel], rfl, fun measure listed => List.mem_singleton.mp listed ▸ ⟨_, rfl⟩⟩

theorem compiles (inherits : scope.Inherits root)
    (lowers : root.Lowers resolver source measures statement) (writable : statement.Writable dialect)
    (fewer : others ⊆ measures ∨ others = [.defaultCount]) :
    ∃ other, scope.Lowers resolver source others other ∧ other.Writable dialect := by
  obtain ⟨rolled, rolled_eq, rolledSelected, notBoth⟩ := inherits.resolves_rollup lowers writable.checked
  obtain ⟨typed, typed_eq, measured⟩ := lowers_measures lowers writable fewer
  have rootFilter := Criteria.compiles_option_iff.mp ⟨_, lowers.whereCriteria, writable.filtered⟩
  have rootRestriction := Criteria.compiles_option_iff.mp ⟨_, lowers.havingCriteria, writable.restricted⟩
  obtain ⟨filter, filter_eq, filtered⟩ := Criteria.compiles_option_iff.mpr
    (show ∀ kept, scope.whereCriteria = some kept → kept.Compiles resolver dialect by
      intro kept found
      obtain ⟨criteria, rootFound, rfl | ⟨fields, pruned⟩⟩ := inherits.filter kept found
      · exact rootFilter kept rootFound
      · exact (rootFilter criteria rootFound).withoutFields fields criteria kept pruned)
  obtain ⟨restriction, restriction_eq, restricted⟩ := Criteria.compiles_option_iff.mpr
    fun kept found => rootRestriction kept (inherits.restriction kept found)
  refine ⟨{ statement with
      rollup := rolled, measures := typed, whereCriteria := filter, havingCriteria := restriction,
      limit := scope.limit }, ?_, ?_⟩
  · exact {
      select := inherits.columns ▸ lowers.select
      rollup := rolled_eq
      groupingSets := inherits.groupingSets ▸ lowers.groupingSets
      measures := typed_eq
      whereCriteria := filter_eq
      havingCriteria := restriction_eq
      source := lowers.source
      virtualTables := lowers.virtualTables.trans inherits.source.virtualTables.symm
      limit := rfl }
  · obtain ⟨-, -, oneSource⟩ := (Statement.check_eq_ok_iff statement).mp writable.checked
    exact { writable with
      checked := (Statement.check_eq_ok_iff _).mpr ⟨rolledSelected, notBoth, oneSource⟩
      measured := measured
      filtered := filtered
      restricted := restricted }

end Scope.Inherits

/-! ### Derivations without vectors -/

def Measure.isVector : Measure → Bool
  | .vector _ _ _ _ => true
  | _ => false

/-- No measure of the query is a vector, and no operand of one at any depth. -/
def Query.VectorFree (query : Query) : Prop :=
  ∀ measure ∈ query.measures, ∀ part ∈ measure.parts, part.isVector = false

theorem Arena.axisFields_eq_nil {arena : Arena} (plain : ∀ measure ∈ arena.measures, measure.isVector = false) :
    arena.axisFields = [] := by
  unfold axisFields
  rw [List.flatMap_eq_nil_iff]
  intro measure listed
  cases measure with
  | vector => cases plain _ listed
  | _ => rfl

namespace Scope

variable {scope root : Scope} {measure : Measure} {dependencies : List (Scope × String)}

/-- With grouping sets no rollup is derived. -/
theorem rollup_of_dependency (read : measure.dependencies scope = .ok dependencies)
    {dependency : Scope × String} (member : dependency ∈ dependencies) :
    scope.groupingSets = [] ∨ dependency.1.rollup = scope.rollup := by
  cases measure with
  | binary =>
    obtain rfl := Except.ok.inj read
    obtain ⟨operand, -, rfl⟩ := List.mem_map.mp member
    exact .inr rfl
  | comparison label method base positions period columnSet ancestors =>
    obtain ⟨reference, found, rest⟩ := bind_eq_ok.mp read
    obtain rfl := Except.ok.inj rest
    have referenceRollup : scope.groupingSets = [] ∨ reference.rollup = scope.rollup := by
      rcases forComparison_cases found with ⟨-, -, -, rfl⟩ | ⟨fields, rfl, rfl, -⟩ | ⟨-, -, -, -, rfl⟩
      · exact .inr rfl
      · -- Parents are refused next to grouping sets.
        left
        by_contra sets
        simp [forComparison, sets] at found
      · exact .inr rfl
    rcases List.mem_append.mp member with own | other
    · obtain ⟨operand, -, rfl⟩ := List.mem_map.mp own
      exact .inr rfl
    · split at other
      · cases other
      · obtain ⟨operand, -, rfl⟩ := List.mem_map.mp other
        exact referenceRollup
  | vector label fields axis transformer =>
    obtain rfl := Except.ok.inj read
    obtain ⟨operand, -, rfl⟩ := List.mem_map.mp member
    right
    unfold forVector
    split <;> rfl
  | _ =>
    obtain rfl := Except.ok.inj read
    cases member

theorem DerivedFrom.inherits {arena : Arena} (derived : scope.DerivedFrom arena root)
    (noAxes : arena.axisFields = []) (rollsUp : root.groupingSets = [] ∨ scope.rollup = root.rollup) :
    scope.Inherits root := by
  obtain ⟨derivation, within, rfl⟩ := derived
  have axesNil : derivation.axes = [] := List.subset_nil.mp (noAxes ▸ within.axes)
  have among := within.rollup
  rw [axesNil, List.append_nil] at among
  refine ⟨⟨rfl, rfl, rfl⟩, ?_, rfl, among, rollsUp, fun kept found => ?_, fun kept found => ?_⟩
  · simp [Derivation.apply, axesNil]
  · unfold Derivation.apply at found
    cases dropped : derivation.dropped with
    | none =>
      simp only [dropped] at found
      exact ⟨kept, found, .inl rfl⟩
    | some fields =>
      simp only [dropped] at found
      obtain ⟨criteria, rootFound, pruned⟩ := Option.bind_eq_some_iff.mp found
      exact ⟨criteria, rootFound, .inr ⟨fields, pruned⟩⟩
  · unfold Derivation.apply at found
    by_cases keeps : derivation.keepsFilters = true
    · simpa [keeps] using found
    · simp [keeps] at found

end Scope

/-! ### Plans -/

/-- The labels that some labels lead to. -/
inductive Arena.Leads (arena : Arena) (requested : List String) : String → Prop where
  | asked {label : String} (listed : label ∈ requested) : arena.Leads requested label
  | operand {consumer label : String} {measure : Measure} (leads : arena.Leads requested consumer)
    (found : arena.find? consumer = some measure) (reads : label ∈ measure.operands) :
    arena.Leads requested label

/-- Whatever is not a vector reads its operands in its own scope. -/
theorem Measure.mem_dependencies_of_operand {measure : Measure} (plain : measure.isVector = false)
    {scope : Scope} {dependencies : List (Scope × String)}
    (read : measure.dependencies scope = .ok dependencies) {label : String}
    (operand : label ∈ measure.operands) : (scope, label) ∈ dependencies := by
  cases measure with
  | binary =>
    obtain rfl := Except.ok.inj read
    exact List.mem_map_of_mem operand
  | comparison =>
    obtain ⟨reference, -, rest⟩ := bind_eq_ok.mp read
    obtain rfl := Except.ok.inj rest
    exact List.mem_append_left _ (List.mem_map_of_mem operand)
  | vector => cases plain
  | _ => cases operand

namespace Plan

variable {plan : Plan} {query : Query}

/-- Every label of a plan comes from the labels asked for. -/
theorem leads_of_build (planBuilt : build query = .ok plan) :
    ∀ node ∈ plan.graph.nodes, plan.arena.Leads plan.requested node.measure := by
  obtain ⟨-, arenaBuilt, requested_eq, -, ran, -⟩ := build_eq_ok.mp planBuilt
  have known := (requestedLabels_spec requested_eq (by simp)).2
  refine (start_running _ known).keeps (Arena.closed_of_build arenaBuilt) (fun discovery =>
    ∀ node ∈ discovery.graph.nodes, plan.arena.Leads plan.requested node.measure) ?_ ran ?_
  · intro place before after node dependencies _ listed reads expands leads other otherListed
    rcases (expands.nodes other).mp otherListed with old | ⟨dependency, member, rfl⟩
    · exact leads other old
    · obtain ⟨scope, measure, -, found, read⟩ := reads
      exact .operand (leads node listed) found (measure.mem_operands_of_dependency read member)
  · intro node listed
    obtain ⟨label, wanted, rfl⟩ := mem_nodes_start.mp listed
    exact .asked wanted

/-- No scope of a plan has grouping sets together with a rollup that the query does not have. -/
theorem rollsUp_of_build (planBuilt : build query = .ok plan) {key : ScopeKey} {scope : Scope}
    (found : plan.discovery.scopes.lookup key = some scope) :
    query.groupingSets = [] ∨ scope.rollup = query.rollup := by
  obtain ⟨-, arenaBuilt, requested_eq, -, ran, -⟩ := build_eq_ok.mp planBuilt
  have known := (requestedLabels_spec requested_eq (by simp)).2
  refine (start_running (Scope.ofQuery query) known).keeps (Arena.closed_of_build arenaBuilt)
    (fun discovery => ∀ {key scope}, discovery.scopes.lookup key = some scope →
      query.groupingSets = [] ∨ scope.rollup = query.rollup) ?_ ran ?_ found
  · intro place before after node dependencies running _ reads expands kept key scope found
    rcases expands.found found with old | ⟨dependency, member, -, rfl⟩
    · exact kept old
    · obtain ⟨consumer, measure, consumerFound, -, read⟩ := reads
      have sets : consumer.groupingSets = query.groupingSets := by
        obtain ⟨derivation, -, rfl⟩ := running.derived consumerFound
        rfl
      rcases kept consumerFound with none | same
      · exact .inl none
      · exact (Scope.rollup_of_dependency read member).imp (sets ▸ ·) (·.trans same)
  · intro key scope found
    rw [(lookup_start found).2]
    exact .inr rfl

theorem WellBuilt.rooted_of_leads (built : plan.WellBuilt query)
    (plain : ∀ measure ∈ plan.arena.measures, measure.isVector = false) {label : String}
    (leads : plan.arena.Leads plan.requested label) : ⟨plan.root, label⟩ ∈ plan.graph.nodes := by
  induction leads with
  | asked listed => exact built.rooted _ listed
  | @operand consumer label measure leads found reads ih =>
    obtain ⟨dependencies, read, dependents⟩ := built.mem_dependencies ih built.rootScope found
    have own := Measure.mem_dependencies_of_operand
      (plain measure (List.mem_of_find?_eq_some found)) read reads
    apply built.planned _ ih
    rw [dependents, built.root]
    exact ⟨_, own, rfl⟩

/-- Without vectors, the query's own scope computes what any other scope computes. -/
theorem databaseMeasures_subset (planBuilt : build query = .ok plan)
    (plain : ∀ measure ∈ plan.arena.measures, measure.isVector = false) {key : ScopeKey}
    {measures rootMeasures : List Measure} (asked : plan.databaseMeasures key = .ok measures)
    (rootAsked : plan.databaseMeasures plan.root = .ok rootMeasures) :
    measures ⊆ rootMeasures ∨ measures = [.defaultCount] := by
  have built := wellBuilt_of_build planBuilt
  rcases databaseMeasures_cases asked with counts | planned
  · exact .inr counts
  · left
    intro measure listed
    obtain ⟨primitive, node, placed, -, found⟩ := planned measure listed
    have rooted := built.rooted_of_leads plain (leads_of_build planBuilt node placed)
    obtain ⟨others, others_eq, -, holds⟩ := built.databaseMeasures_spec plan.root
    obtain rfl := Except.ok.inj (rootAsked.symm.trans others_eq)
    exact holds _ rooted rfl measure found primitive

/-- If a query without vectors is planned, and the statement of its own scope can be compiled and
written, then so can the statement of every scope of its plan. -/
theorem scopes_compile (datastore : Datastore) (dialect : Dialect)
    (planBuilt : build query = .ok plan) (vectorFree : query.VectorFree) {rootTask : ScopeTask}
    (compiled : plan.task datastore plan.root = .ok rootTask)
    (written : ∃ text, rootTask.statement.sql dialect = .ok text) :
    ∀ key ∈ plan.scopeKeys, ∃ task text, plan.task datastore key = .ok task ∧
      task.statement.sql dialect = .ok text ∧ task.statement.rollup ⊆ task.statement.select ∧
      (task.statement.rollup = [] ∨ task.statement.groupingSets = []) := by
  intro key listed
  have built := wellBuilt_of_build planBuilt
  obtain ⟨-, arenaBuilt, -⟩ := build_eq_ok.mp planBuilt
  have plain := Arena.forall_of_build arenaBuilt vectorFree
  unfold Plan.task at compiled
  obtain ⟨rootMeasures, rootAsked, compiled⟩ := bind_eq_ok.mp compiled
  obtain ⟨root, rootFound, compiled⟩ := bind_eq_ok.mp compiled
  obtain ⟨statement, rootLowered, compiled⟩ := bind_eq_ok.mp compiled
  obtain rfl := Except.ok.inj compiled
  obtain rfl : root = .ofQuery query :=
    Option.some.inj ((Discovery.scope_eq_ok.mp rootFound).symm.trans built.rootScope)
  obtain ⟨scope, found⟩ : ∃ scope, plan.discovery.scopes.lookup key = some scope :=
    Option.isSome_iff_exists.mp (Discovery.lookup_isSome_iff.mpr listed)
  obtain ⟨measures, asked, -⟩ := built.databaseMeasures_spec key
  have inherits := (built.derived found).inherits (Arena.axisFields_eq_nil plain)
    (rollsUp_of_build planBuilt found)
  obtain ⟨resolver, source, parts⟩ := Scope.lower_eq_lowerParts rootLowered
  rw [parts (.refl _), Scope.lowerParts_eq_ok] at rootLowered
  obtain ⟨other, lowers, writable⟩ := inherits.compiles rootLowered
    (Statement.exists_sql_iff.mp written) (databaseMeasures_subset planBuilt plain asked rootAsked)
  obtain ⟨text, text_eq⟩ := Statement.exists_sql_iff.mpr writable
  obtain ⟨selected, notBoth, -⟩ := (Statement.check_eq_ok_iff other).mp writable.checked
  refine ⟨⟨key, scope, measures, other⟩, text, ?_, text_eq, selected, notBoth⟩
  have lowered : scope.lower datastore measures = .ok other := by
    rw [parts inherits.source, Scope.lowerParts_eq_ok]
    exact lowers
  unfold Plan.task
  rw [asked, ok_bind, show plan.scope key = .ok scope from Discovery.scope_eq_ok.mpr found, ok_bind,
    lowered]
  rfl

end Plan

/-! ### A share of the parent -/

def shareTotal : Measure := .aggregated "total" (.ofName "price") "sum" none

/-- The share of a city in its country, and of a country in all. -/
def shareQuery : Query :=
  { Query.empty with
    table := some (.ofName "sales")
    columns := [.ofName "country", .ofName "city"]
    measures := [.comparison "share" .divide shareTotal .empty none none
      (some [.ofName "city", .ofName "country"])] }

def shareArena : Arena := ⟨shareQuery.measures ++ [shareTotal]⟩

/-- The rows of the countries and of all. -/
def parentScope : Scope := (Scope.ofQuery shareQuery).forParents [.ofName "city", .ofName "country"]

def shareDatastore : Datastore :=
  .ofList [⟨"sales", [⟨"country", .string⟩, ⟨"city", .string⟩, ⟨"price", .long⟩]⟩]

def shareStatement : Statement :=
  ⟨some ⟨"sales", false, []⟩, none, [], [.column none "country" .string none, .column none "city" .string none],
    [], [], [.aggregated "total" (.column none "price" .long none) "sum" none], none, none, none⟩

theorem shareQuery_dependencies : ∀ measure ∈ shareQuery.measures,
    measure.dependencies (.ofQuery shareQuery) =
      .ok [(.ofQuery shareQuery, "total"), (parentScope, "total")] := by
  intro measure listed
  rw [List.mem_singleton.mp listed]
  have other : parentScope ≠ .ofQuery shareQuery := by decide
  exact congrArg (fun rest => Except.ok ((Scope.ofQuery shareQuery, "total") :: rest)) (if_neg other)

theorem expand_share {discovery : Discovery} {key : ScopeKey}
    (found : discovery.scopes.lookup key = some (.ofQuery shareQuery)) :
    discovery.expand shareArena ⟨key, "share"⟩ =
      .ok (([(.ofQuery shareQuery, "total"), (parentScope, "total")] : List (Scope × String)).foldl
        (Discovery.addDependency ⟨key, "share"⟩) discovery) := by
  unfold Discovery.expand
  rw [Discovery.scope_eq_ok.mpr found, ok_bind]
  exact bind_eq_ok.mpr ⟨_, rfl, bind_eq_ok.mpr
    ⟨_, shareQuery_dependencies _ (List.mem_singleton_self _), rfl⟩⟩

theorem expand_total {discovery : Discovery} {key : ScopeKey} {scope : Scope}
    (found : discovery.scopes.lookup key = some scope) :
    discovery.expand shareArena ⟨key, "total"⟩ = .ok discovery := by
  unfold Discovery.expand
  rw [Discovery.scope_eq_ok.mpr found]
  rfl

/-- Whether or not the digests of the two scopes are the same. The scopes are left open, so that no
digest is computed. -/
theorem shareArena_run {root parent : Scope}
    (expands : ∀ {discovery : Discovery} {key : ScopeKey}, discovery.scopes.lookup key = some root →
      discovery.expand shareArena ⟨key, "share"⟩ =
        .ok (([(root, "total"), (parent, "total")] : List (Scope × String)).foldl
          (Discovery.addDependency ⟨key, "share"⟩) discovery)) :
    ∃ discovery, (Plan.start root ["share"]).run shareArena (Discovery.nodeBound shareArena root + 1) 0 =
        .ok discovery ∧
      parent.key ∈ discovery.scopes.map (·.1) ∧
      (discovery.graph.nodes.filter (·.scope = root.key)) = [⟨root.key, "share"⟩, ⟨root.key, "total"⟩] ∧
      discovery.graph.checkAcyclic PlanNode.name = .ok () := by
  obtain ⟨more, bound_eq⟩ : ∃ more, Discovery.nodeBound shareArena root = more + 2 :=
    Discovery.exists_nodeBound_eq ..
  have first : (Plan.start root ["share"]).scopes.lookup root.key = some root := by simp [Plan.start]
  rw [bound_eq, Discovery.run_next rfl (expands first)]
  by_cases same : parent.key = root.key
  · have grown : ([(root, "total"), (parent, "total")] : List (Scope × String)).foldl
        (Discovery.addDependency ⟨root.key, "share"⟩) (Plan.start root ["share"]) =
        ⟨[(root.key, root)], ⟨[⟨root.key, "share"⟩, ⟨root.key, "total"⟩], [(0, 1)]⟩⟩ := by
      simp [Plan.start, Graph.addNode, Graph.empty, Discovery.addDependency, Discovery.addScope,
        Graph.addDependency, Graph.indexOf?, Graph.addEdge, List.findIdx?_cons, same]
    rw [grown, Discovery.run_next rfl (expand_total (List.lookup_cons_self ..))]
    refine ⟨_, by cases more <;> rfl, ?_, ?_, rfl⟩
    · exact List.mem_singleton.mpr same
    · simp
  · have grown : ([(root, "total"), (parent, "total")] : List (Scope × String)).foldl
        (Discovery.addDependency ⟨root.key, "share"⟩) (Plan.start root ["share"]) =
        ⟨[(root.key, root), (parent.key, parent)],
          ⟨[⟨root.key, "share"⟩, ⟨root.key, "total"⟩, ⟨parent.key, "total"⟩], [(0, 1), (0, 2)]⟩⟩ := by
      simp [Plan.start, Graph.addNode, Graph.empty, Discovery.addDependency, Discovery.addScope,
        Graph.addDependency, Graph.indexOf?, Graph.addEdge, List.findIdx?_cons, same, Ne.symm same]
    have found : [(root.key, root), (parent.key, parent)].lookup parent.key = some parent := by
      rw [List.lookup_cons, beq_eq_false_iff_ne.mpr same]
      exact List.lookup_cons_self ..
    rw [grown, Discovery.run_next rfl (expand_total (List.lookup_cons_self ..)),
      Discovery.run_next rfl (expand_total found)]
    refine ⟨_, by cases more <;> rfl, ?_, ?_, rfl⟩
    · exact List.mem_cons_of_mem _ (List.mem_singleton_self _)
    · simp [same]

/-- The share is planned with the scope of the parents, and its own statement compiles. -/
theorem sharePlan_built : ∃ plan task, Plan.build shareQuery = .ok plan ∧
    parentScope.key ∈ plan.scopeKeys ∧ plan.task shareDatastore plan.root = .ok task ∧
    task.statement = shareStatement := by
  obtain ⟨discovery, ran, listed, nodes, acyclic⟩ := shareArena_run expand_share
  let plan : Plan := ⟨(Scope.ofQuery shareQuery).key, shareArena, ["share"], discovery⟩
  have planBuilt : Plan.build shareQuery = .ok plan :=
    Plan.build_eq_ok.mpr ⟨by decide, rfl, rfl, rfl, ran, acyclic⟩
  refine ⟨plan, ⟨plan.root, .ofQuery shareQuery, [shareTotal], shareStatement⟩, planBuilt, listed, ?_, rfl⟩
  have asked : plan.databaseMeasures plan.root = .ok [shareTotal] := by
    unfold Plan.databaseMeasures
    rw [show plan.graph.nodes.filter (·.scope = plan.root) = _ from nodes]
    rfl
  have known := (Plan.wellBuilt_of_build planBuilt).rootScope
  unfold Plan.task
  exact bind_eq_ok.mpr ⟨_, asked, bind_eq_ok.mpr ⟨_, Discovery.scope_eq_ok.mpr known, rfl⟩⟩

/-- The rows of the parents are asked for by a statement that rolls up both columns. -/
theorem Plan.share_compiles : ∃ plan, Plan.build shareQuery = .ok plan ∧ shareQuery.VectorFree ∧
    ∃ task text, plan.task shareDatastore parentScope.key = .ok task ∧
      task.statement.sql .generic = .ok text ∧ task.statement.rollup ⊆ task.statement.select ∧
      (task.statement.rollup = [] ∨ task.statement.groupingSets = []) := by
  obtain ⟨plan, rootTask, planBuilt, listed, compiled, statement_eq⟩ := sharePlan_built
  have written : ∃ text, rootTask.statement.sql .generic = .ok text := statement_eq ▸ ⟨_, rfl⟩
  have vectorFree : shareQuery.VectorFree := by
    intro measure listed part member
    obtain rfl := List.mem_singleton.mp listed
    rcases List.mem_cons.mp member with rfl | base
    · rfl
    · rw [List.mem_singleton.mp base]
      rfl
  exact ⟨plan, planBuilt, vectorFree,
    scopes_compile shareDatastore .generic planBuilt vectorFree compiled written _ listed⟩

end CubeQuery
