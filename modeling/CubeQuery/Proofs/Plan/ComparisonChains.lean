import CubeQuery.Proofs.Graph.ReportedCycle
import CubeQuery.Proofs.Plan.Exactness

/-! Comparisons of comparisons. The scope that a comparison refers to is its own reference, so that a
chain of comparisons over one period, or over one list of ancestors, reads the scope of the query and
one more, however long the chain is. -/

namespace CubeQuery

open Steps

/-! ### References of references -/

namespace Scope

theorem bind_withoutFields_again (criteria : Option Criteria) (dropped : List Field) :
    (criteria.bind (Criteria.withoutFields dropped)).bind (Criteria.withoutFields dropped) =
      criteria.bind (Criteria.withoutFields dropped) := by
  rw [Option.bind_assoc]
  congr 1
  funext whole
  rw [Criteria.withoutFields_append]
  apply Criteria.withoutFields_congr
  intro field
  rw [List.mem_append, or_self]

/-- The columns that a rollup ends with are named by ancestors, so that a second pass takes them out
and puts them back. -/
theorem parentRollup_again (scope : Scope) (ancestors : List Field) :
    (scope.forParents ancestors).parentRollup ancestors = scope.parentRollup ancestors := by
  let stays : Field → Bool := fun field => !(ancestors.map Field.name).contains field.name
  let ends := ancestors.reverse.filterMap fun ancestor =>
    scope.columns.find? fun column => column.name = ancestor.name
  have leave : ends.filter stays = [] := by
    rw [List.filter_eq_nil_iff]
    intro column member
    obtain ⟨ancestor, listed, found⟩ := List.mem_filterMap.mp member
    have same : column.name = ancestor.name := by simpa using List.find?_some found
    have named : column.name ∈ ancestors.map Field.name := by
      rw [same]
      exact List.mem_map_of_mem (List.mem_reverse.mp listed)
    simpa [stays] using named
  have remain : (scope.rollup.filter stays).filter stays = scope.rollup.filter stays := by
    rw [List.filter_filter]
    simp only [Bool.and_self]
  change (scope.rollup.filter stays ++ ends).filter stays ++ ends = scope.rollup.filter stays ++ ends
  rw [List.filter_append, remain, leave, List.append_nil]

theorem forParents_again (scope : Scope) (ancestors : List Field) :
    (scope.forParents ancestors).forParents ancestors = scope.forParents ancestors := by
  have rollup := scope.parentRollup_again ancestors
  exact congrArg (fun columns => { scope.prefetch with rollup := columns }) rollup

end Scope

/-- What comparisons refer to: the rows of other periods, by the fields that tell a period, or the
rows of parents, by a list of ancestors. -/
inductive Referent where
  | periods (fields : List Field)
  | parents (ancestors : List Field)

namespace Referent

/-- The scope of the rows referred to. -/
def scope : Referent → Scope → Scope
  | .periods fields, scope =>
    { scope.prefetch with whereCriteria := scope.whereCriteria.bind (Criteria.withoutFields fields) }
  | .parents ancestors, scope => scope.forParents ancestors

/-- A comparison with the period and the ancestors refers to these rows. A period comes before
ancestors. -/
inductive IsOf : Referent → Option Period → Option (List Field) → Prop where
  | period {fields : List Field} {calendar : Period} {ancestors : Option (List Field)}
    (same : ∀ field, field ∈ calendar.fields ↔ field ∈ fields) :
    IsOf (.periods fields) (some calendar) ancestors
  | parents {ancestors : List Field} : IsOf (.parents ancestors) none (some ancestors)

theorem scope_again (referent : Referent) (scope : Scope) :
    referent.scope (referent.scope scope) = referent.scope scope := by
  cases referent with
  | periods fields =>
    have pruned := Scope.bind_withoutFields_again scope.whereCriteria fields
    exact congrArg (fun criteria => { scope.prefetch with whereCriteria := criteria }) pruned
  | parents ancestors => exact scope.forParents_again ancestors

theorem scope_of_forComparison {referent : Referent} {scope reference : Scope} {label : String}
    {period : Option Period} {columnSet : Option ColumnSetKey} {ancestors : Option (List Field)}
    (refers : referent.IsOf period ancestors)
    (found : scope.forComparison label period columnSet ancestors = .ok reference) :
    reference = referent.scope scope := by
  cases refers with
  | @period fields calendar _ same =>
    obtain ⟨_, period_eq, -, rfl⟩ | ⟨_, none_eq, -⟩ | ⟨none_eq, -⟩ := Scope.forComparison_cases found
    · cases period_eq
      have dropped : Criteria.withoutFields calendar.fields = Criteria.withoutFields fields :=
        funext (Criteria.withoutFields_congr same)
      unfold Scope.forPeriod Referent.scope
      rw [dropped]
    · cases none_eq
    · cases none_eq
  | parents =>
    obtain ⟨_, none_eq, -⟩ | ⟨_, -, fields_eq, rfl⟩ | ⟨-, none_eq, -⟩ := Scope.forComparison_cases found
    · cases none_eq
    · cases fields_eq
      rfl
    · cases none_eq

end Referent

/-- The scope that a comparison refers to is the one that the comparison refers to from there. -/
theorem Scope.forComparison_again {scope reference : Scope} {label : String} {period : Option Period}
    {columnSet : Option ColumnSetKey} {ancestors : Option (List Field)}
    (found : scope.forComparison label period columnSet ancestors = .ok reference) :
    reference.forComparison label period columnSet ancestors = .ok reference := by
  rcases forComparison_cases found with
    ⟨calendar, rfl, selected, rfl⟩ | ⟨fields, rfl, rfl, rfl⟩ | ⟨rfl, rfl, rfl, -, rfl⟩
  · have none : calendar.fields.find? (fun field => !(scope.forPeriod calendar).hasColumn field) =
        none := by
      rw [List.find?_eq_none]
      intro field listed
      have column : (scope.forPeriod calendar).hasColumn field = true := selected field listed
      simp [column]
    unfold forComparison
    simp only [none]
    exact congrArg Except.ok ((Referent.periods calendar.fields).scope_again scope)
  · unfold forComparison at found ⊢
    simp only at found ⊢
    split at found
    · next single =>
      rw [forParents_again]
      exact if_pos single
    · cases found
  · exact found

/-! ### Chains -/

/-- A measure of the database, compared any number of times with the same rows. The base of a
comparison may be named instead of nested. -/
inductive Measure.Chain (referent : Referent) : Measure → Prop where
  | bottom {measure : Measure} (primitive : measure.isPrimitive = true) : Chain referent measure
  | compared {label : String} {method : ComparisonMethod} {base : Measure}
    {positions : SortedMap Field String} {period : Option Period} {columnSet : Option ColumnSetKey}
    {ancestors : Option (List Field)} (refers : referent.IsOf period ancestors)
    (chain : Chain referent base) :
    Chain referent (.comparison label method base positions period columnSet ancestors)
  | named (label : String) : Chain referent (.ref label)

variable {referent : Referent}

/-- All of a chain are chains. -/
theorem Measure.Chain.parts {measure : Measure} (chain : measure.Chain referent) :
    ∀ part ∈ measure.parts, part.Chain referent := by
  induction chain with
  | @bottom measure primitive =>
    have alone : measure.parts = [measure] := by
      cases measure with
      | aggregated | expression | count => rfl
      | binary | comparison | vector | ref => cases primitive
    rw [alone]
    exact List.forall_mem_singleton.mpr (.bottom primitive)
  | compared refers chain ih => exact List.forall_mem_cons.mpr ⟨.compared refers chain, ih⟩
  | named label => exact fun _ listed => absurd listed List.not_mem_nil

/-- A chain reads its base in its own scope and among the rows that it is compared with. -/
theorem Measure.Chain.scope_of_dependency {measure : Measure} (chain : measure.Chain referent)
    {scope : Scope} {dependencies : List (Scope × String)}
    (read : measure.dependencies scope = .ok dependencies) :
    ∀ dependency ∈ dependencies, dependency.1 = scope ∨ dependency.1 = referent.scope scope := by
  intro dependency member
  cases chain with
  | bottom primitive =>
    cases measure with
    | aggregated | expression | count =>
      obtain rfl := Except.ok.inj read
      cases member
    | binary | comparison | vector | ref => cases primitive
  | compared refers chain =>
    obtain ⟨reference, found, rest⟩ := bind_eq_ok.mp read
    obtain rfl := Except.ok.inj rest
    rcases List.mem_append.mp member with own | other
    · obtain ⟨operand, -, rfl⟩ := List.mem_map.mp own
      exact .inl rfl
    · split at other
      · cases other
      · obtain ⟨operand, -, rfl⟩ := List.mem_map.mp other
        exact .inr (Referent.scope_of_forComparison refers found)
  | named label =>
    obtain rfl := Except.ok.inj read
    cases member

namespace Plan

variable {plan : Plan} {query : Query}

/-- A plan of chains has the scope of the query and that of the rows that they are compared with. What
one expansion keeps: from either of the two, a chain reads no third one. -/
theorem scope_of_chains (planBuilt : build query = .ok plan)
    (chains : ∀ measure ∈ query.measures, measure.Chain referent) {key : ScopeKey} {scope : Scope}
    (found : plan.discovery.scopes.lookup key = some scope) :
    scope = .ofQuery query ∨ scope = referent.scope (.ofQuery query) := by
  obtain ⟨-, arenaBuilt, requested_eq, -, ran, -⟩ := build_eq_ok.mp planBuilt
  have known := (requestedLabels_spec requested_eq (by simp)).2
  have all := Arena.forall_of_build arenaBuilt fun measure listed => (chains measure listed).parts
  refine (start_running (Scope.ofQuery query) known).keeps (Arena.closed_of_build arenaBuilt)
    (fun discovery => ∀ {key scope}, discovery.scopes.lookup key = some scope →
      scope = .ofQuery query ∨ scope = referent.scope (.ofQuery query)) ?_ ran ?_ found
  · intro place before after node dependencies _ _ reads expands kept key scope found
    rcases expands.found found with old | ⟨dependency, member, -, rfl⟩
    · exact kept old
    · obtain ⟨consumer, measure, consumerFound, measureFound, read⟩ := reads
      have chain := all measure (List.mem_of_find?_eq_some measureFound)
      rcases chain.scope_of_dependency read dependency member with own | other
      · rw [own]
        exact kept consumerFound
      · right
        rcases kept consumerFound with rfl | rfl
        · exact other
        · exact other.trans (referent.scope_again _)
  · intro key scope found
    exact .inl (lookup_start found).2

/-- A plan whose scopes are among two has no more than two. -/
theorem length_scopeKeys_le_two (planBuilt : build query = .ok plan) {first second : Scope}
    (among : ∀ {key scope}, plan.discovery.scopes.lookup key = some scope → scope = first ∨ scope = second) :
    plan.scopeKeys.length ≤ 2 := by
  have built := wellBuilt_of_build planBuilt
  have included : plan.scopeKeys ⊆ [first.key, second.key] := by
    intro key listed
    obtain ⟨scope, found⟩ := Option.isSome_iff_exists.mp (Discovery.lookup_isSome_iff.mpr listed)
    rw [← built.keyed found]
    rcases among found with rfl | rfl <;> simp
  exact (List.subperm_of_subset (tidy_of_build planBuilt).keys included).length_le

/-- The scope that a comparison refers to is its own reference. A plan of comparisons of comparisons,
to any depth and all with the rows of the same periods or of the same ancestors, therefore has one
scope besides that of the query. -/
theorem comparisons_share_reference :
    (∀ (scope reference : Scope) label period columnSet ancestors,
      scope.forComparison label period columnSet ancestors = .ok reference →
        reference.forComparison label period columnSet ancestors = .ok reference) ∧
    ∀ (referent : Referent) (query : Query) (plan : Plan),
      (∀ measure ∈ query.measures, measure.Chain referent) → build query = .ok plan →
        plan.scopeKeys.length ≤ 2 ∧ ∀ key scope, plan.scope key = .ok scope →
          scope = .ofQuery query ∨ scope = referent.scope (.ofQuery query) := by
  refine ⟨fun scope reference label period columnSet ancestors => Scope.forComparison_again, ?_⟩
  intro referent query plan chains planBuilt
  constructor
  · exact length_scopeKeys_le_two planBuilt (scope_of_chains planBuilt chains)
  · intro key scope found
    exact scope_of_chains planBuilt chains (Discovery.scope_eq_ok.mp found)

end Plan

/-! ### How growth grows -/

def overYears (label : String) (base : Measure) : Measure :=
  .comparison label .absoluteDifference base (.ofList [(.ofName "year", "y-1")])
    (some (.year (.ofName "year"))) none none

def yearTotal : Measure := .aggregated "total" (.ofName "price") "sum" none

/-- The growth of the growth in one year. -/
def accelerationQuery : Query :=
  { Query.empty with
    table := some (.ofName "sales")
    columns := [.ofName "year"]
    whereCriteria := some (.onField (.ofName "year") (.single .eq (.int 2023)))
    measures := [overYears "acceleration" (overYears "growth" yearTotal)] }

def accelerationArena : Arena :=
  ⟨[overYears "acceleration" (overYears "growth" yearTotal), overYears "growth" yearTotal, yearTotal]⟩

/-- The sales of all years. -/
def allYears : Scope := (Referent.periods [.ofName "year"]).scope (.ofQuery accelerationQuery)

namespace Discovery

theorem expand_of_reads {arena : Arena} {discovery : Discovery} {node : PlanNode}
    {dependencies : List (Scope × String)} (reads : discovery.Reads arena node dependencies) :
    discovery.expand arena node = .ok (dependencies.foldl (addDependency node) discovery) := by
  obtain ⟨scope, measure, scopeFound, measureFound, read⟩ := reads
  unfold Discovery.expand
  rw [scope_eq_ok.mpr scopeFound, ok_bind, Arena.get_eq_ok.mpr measureFound, ok_bind, read]
  rfl

/-- A run adds nothing if no node that is left reads anything. -/
theorem run_of_still {arena : Arena} {discovery : Discovery} {place : Nat}
    (still : ∀ index node, place ≤ index → discovery.graph.nodes[index]? = some node →
      discovery.Reads arena node []) (bound : Nat) :
    discovery.run arena bound place = .ok discovery := by
  induction bound generalizing place with
  | zero => rfl
  | succ bound ih =>
    cases next : discovery.graph.nodes[place]? with
    | none =>
      rw [Discovery.run, next]
    | some node =>
      rw [run_next next (expand_of_reads (still place node le_rfl next))]
      exact ih fun index other later => still index other (by omega)

end Discovery

theorem overYears_dependencies {scope reference : Scope} {label : String} (base : Measure)
    (found : scope.forComparison label (some (.year (.ofName "year"))) none none = .ok reference) :
    (overYears label base).dependencies scope =
      .ok ((scope, base.label) :: if reference = scope then [] else [(reference, base.label)]) := by
  apply bind_eq_ok.mpr
  exact ⟨reference, found, rfl⟩

/-- The total reads nothing, in whatever scope. -/
theorem total_still {discovery : Discovery} {place : Nat}
    (placed : ∀ node ∈ discovery.graph.nodes, (discovery.scopes.lookup node.scope).isSome = true)
    (left : ∀ node ∈ discovery.graph.nodes.drop place, node.measure = "total") (bound : Nat) :
    discovery.run accelerationArena bound place = .ok discovery := by
  apply Discovery.run_of_still
  intro index node later stands
  have remaining : node ∈ discovery.graph.nodes.drop place := by
    apply List.mem_of_getElem? (i := index - place)
    rw [List.getElem?_drop, Nat.add_sub_cancel' later]
    exact stands
  obtain ⟨scope, found⟩ := Option.isSome_iff_exists.mp (placed node (List.mem_of_getElem? stands))
  refine ⟨scope, yearTotal, found, ?_, rfl⟩
  rw [left node remaining]
  rfl

/-- What the measures read in the scope of the query and in that of all years. The scopes are left open,
so that no digest is computed. -/
structure Accelerates (root reference : Scope) : Prop where
  acceleration : (overYears "acceleration" (overYears "growth" yearTotal)).dependencies root =
    .ok [(root, "growth"), (reference, "growth")]
  growth : (overYears "growth" yearTotal).dependencies root = .ok [(root, "total"), (reference, "total")]
  growthThere : (overYears "growth" yearTotal).dependencies reference = .ok [(reference, "total")]

/-- The discovery of a plan ends, in a graph without a cycle. -/
def Accelerated (root : Scope) : Prop :=
  ∃ discovery, (Plan.start root ["acceleration"]).run accelerationArena
      (Discovery.nodeBound accelerationArena root + 1) 0 = .ok discovery ∧
    discovery.graph.checkAcyclic PlanNode.name = .ok ()

namespace Accelerates

variable {root reference : Scope}

theorem lookup_root {others : List (ScopeKey × Scope)} :
    ((root.key, root) :: others).lookup root.key = some root := List.lookup_cons_self ..

theorem run_together (accelerates : Accelerates root reference) (same : reference.key = root.key) :
    Accelerated root := by
  obtain ⟨more, bound_eq⟩ : ∃ more, Discovery.nodeBound accelerationArena root = more + 3 :=
    Discovery.exists_nodeBound_eq ..
  let nodes : List PlanNode := [⟨root.key, "acceleration"⟩, ⟨root.key, "growth"⟩]
  have accelerated : ([(root, "growth"), (reference, "growth")] : List (Scope × String)).foldl
      (Discovery.addDependency ⟨root.key, "acceleration"⟩) (Plan.start root ["acceleration"]) =
      ⟨[(root.key, root)], ⟨nodes, [(0, 1)]⟩⟩ := by
    simp [nodes, Plan.start, Graph.addNode, Graph.empty, Discovery.addDependency, Discovery.addScope,
      Graph.addDependency, Graph.indexOf?, Graph.addEdge, List.findIdx?_cons, same]
  have grown : ([(root, "total"), (reference, "total")] : List (Scope × String)).foldl
      (Discovery.addDependency ⟨root.key, "growth"⟩) ⟨[(root.key, root)], ⟨nodes, [(0, 1)]⟩⟩ =
      ⟨[(root.key, root)], ⟨nodes ++ [⟨root.key, "total"⟩], [(0, 1), (1, 2)]⟩⟩ := by
    simp [nodes, Graph.addNode, Discovery.addDependency, Discovery.addScope, Graph.addDependency,
      Graph.indexOf?, Graph.addEdge, List.findIdx?_cons, same]
  unfold Accelerated
  rw [bound_eq, Discovery.run_next rfl
      (Discovery.expand_of_reads ⟨root, _, lookup_root, rfl, accelerates.acceleration⟩),
    accelerated, Discovery.run_next rfl
      (Discovery.expand_of_reads ⟨root, _, lookup_root, rfl, accelerates.growth⟩), grown]
  refine ⟨_, total_still ?_ (by simp [nodes]) _, ?_⟩
  · simp [nodes]
  · exact Graph.checkAcyclic_of_ascending _ (by simp)

theorem run_apart (accelerates : Accelerates root reference) (differ : reference.key ≠ root.key) :
    Accelerated root := by
  obtain ⟨more, bound_eq⟩ : ∃ more, Discovery.nodeBound accelerationArena root = more + 3 :=
    Discovery.exists_nodeBound_eq ..
  let scopes := [(root.key, root), (reference.key, reference)]
  let nodes : List PlanNode :=
    [⟨root.key, "acceleration"⟩, ⟨root.key, "growth"⟩, ⟨reference.key, "growth"⟩]
  let totals : List PlanNode := [⟨root.key, "total"⟩, ⟨reference.key, "total"⟩]
  have apart : (reference.key == root.key) = false := beq_eq_false_iff_ne.mpr differ
  have there : scopes.lookup reference.key = some reference := by
    rw [List.lookup_cons, apart]
    exact List.lookup_cons_self ..
  have accelerated : ([(root, "growth"), (reference, "growth")] : List (Scope × String)).foldl
      (Discovery.addDependency ⟨root.key, "acceleration"⟩) (Plan.start root ["acceleration"]) =
      ⟨scopes, ⟨nodes, [(0, 1), (0, 2)]⟩⟩ := by
    simp [scopes, nodes, Plan.start, Graph.addNode, Graph.empty, Discovery.addDependency,
      Discovery.addScope, Graph.addDependency, Graph.indexOf?, Graph.addEdge, List.findIdx?_cons,
      List.lookup_cons, apart, differ, Ne.symm differ]
  have grown : ([(root, "total"), (reference, "total")] : List (Scope × String)).foldl
      (Discovery.addDependency ⟨root.key, "growth"⟩) ⟨scopes, ⟨nodes, [(0, 1), (0, 2)]⟩⟩ =
      ⟨scopes, ⟨nodes ++ totals, [(0, 1), (0, 2), (1, 3), (1, 4)]⟩⟩ := by
    simp [scopes, nodes, totals, Graph.addNode, Discovery.addDependency, Discovery.addScope,
      Graph.addDependency, Graph.indexOf?, Graph.addEdge, List.findIdx?_cons, List.lookup_cons, apart,
      differ, Ne.symm differ]
  have grownThere : ([(reference, "total")] : List (Scope × String)).foldl
      (Discovery.addDependency ⟨reference.key, "growth"⟩)
      ⟨scopes, ⟨nodes ++ totals, [(0, 1), (0, 2), (1, 3), (1, 4)]⟩⟩ =
      ⟨scopes, ⟨nodes ++ totals, [(0, 1), (0, 2), (1, 3), (1, 4), (2, 4)]⟩⟩ := by
    simp [scopes, nodes, totals, Graph.addNode, Discovery.addDependency, Discovery.addScope,
      Graph.addDependency, Graph.indexOf?, Graph.addEdge, List.findIdx?_cons, List.lookup_cons, apart,
      Ne.symm differ]
  unfold Accelerated
  rw [bound_eq, Discovery.run_next rfl
      (Discovery.expand_of_reads ⟨root, _, lookup_root, rfl, accelerates.acceleration⟩),
    accelerated, Discovery.run_next rfl
      (Discovery.expand_of_reads ⟨root, _, lookup_root, rfl, accelerates.growth⟩),
    grown, Discovery.run_next rfl
      (Discovery.expand_of_reads ⟨reference, _, there, rfl, accelerates.growthThere⟩), grownThere]
  refine ⟨_, total_still ?_ (by simp [nodes, totals]) _, ?_⟩
  · simp [scopes, nodes, totals, List.lookup_cons, apart]
  · exact Graph.checkAcyclic_of_ascending _ (by simp)

end Accelerates

theorem acceleration_built : ∃ plan, Plan.build accelerationQuery = .ok plan := by
  have refers (label : String) : (Scope.ofQuery accelerationQuery).forComparison label
      (some (.year (.ofName "year"))) none none = .ok allYears := rfl
  have other : allYears ≠ .ofQuery accelerationQuery := by decide
  have accelerates : Accelerates (.ofQuery accelerationQuery) allYears := by
    constructor
    · rw [overYears_dependencies _ (refers "acceleration"), if_neg other]
      rfl
    · rw [overYears_dependencies _ (refers "growth"), if_neg other]
      rfl
    · rw [overYears_dependencies _ (Scope.forComparison_again (refers "growth")), if_pos rfl]
      rfl
  obtain ⟨discovery, ran, acyclic⟩ : Accelerated (.ofQuery accelerationQuery) := by
    by_cases same : allYears.key = (Scope.ofQuery accelerationQuery).key
    · exact accelerates.run_together same
    · exact accelerates.run_apart same
  let plan : Plan :=
    ⟨(Scope.ofQuery accelerationQuery).key, accelerationArena, ["acceleration"], discovery⟩
  exact ⟨plan, Plan.build_eq_ok.mpr ⟨by decide, rfl, rfl, rfl, ran, acyclic⟩⟩

/-- The growth of the growth is computed from the sales of the year and the sales of all years. -/
theorem Plan.acceleration_two_scopes : ∃ plan, build accelerationQuery = .ok plan ∧
    allYears.forComparison "acceleration" (some (.year (.ofName "year"))) none none = .ok allYears ∧
    plan.scopeKeys.length ≤ 2 ∧ ∀ key scope, plan.scope key = .ok scope →
      scope = .ofQuery accelerationQuery ∨ scope = allYears := by
  obtain ⟨plan, planBuilt⟩ := acceleration_built
  have chain : ∀ measure ∈ accelerationQuery.measures, measure.Chain (.periods [.ofName "year"]) := by
    intro measure listed
    rw [List.mem_singleton.mp listed]
    exact .compared (.period fun _ => Iff.rfl) (.compared (.period fun _ => Iff.rfl) (.bottom rfl))
  exact ⟨plan, planBuilt, comparisons_share_reference.1 (.ofQuery accelerationQuery) _ _ _ _ _ rfl,
    comparisons_share_reference.2 _ _ plan chain planBuilt⟩

end CubeQuery
