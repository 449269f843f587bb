import CubeQuery.Plan.Discovery
import CubeQuery.Proofs.Graph.Growth
import CubeQuery.Proofs.Steps

/-! What a discovery has found so far. The nodes before some place have been expanded: their edges
are what their measures read, and the scopes that those lead to are known. -/

namespace CubeQuery

open Steps

theorem Arena.get_eq_ok {arena : Arena} {label : String} {measure : Measure} :
    arena.get label = .ok measure ↔ arena.find? label = some measure := by
  unfold Arena.get
  cases arena.find? label <;> simp

theorem Arena.label_of_find? {arena : Arena} {label : String} {measure : Measure}
    (found : arena.find? label = some measure) : measure.label = label := by
  have same := List.find?_some found
  exact of_decide_eq_true same

/-- Every label that a measure reads is that of a measure. -/
def Arena.Closed (arena : Arena) : Prop :=
  ∀ measure ∈ arena.measures, ∀ label ∈ measure.operands, ∃ operand, arena.find? label = some operand

theorem Arena.closed_of_build {measures : List Measure} {arena : Arena}
    (built : Arena.build measures = .ok arena) : arena.Closed := by
  obtain ⟨registered, -, rest⟩ := bind_eq_ok.mp built
  cases dangling : registered.dangling? with
  | some label => simp [dangling] at rest
  | none =>
    simp only [dangling, pure_eq_ok, Except.ok.injEq] at rest
    obtain rfl := rest
    intro measure listed label operand
    have found := List.find?_eq_none.mp dangling label (List.mem_flatMap.mpr ⟨measure, listed, operand⟩)
    simpa [Option.ne_none_iff_exists'] using found

/-- No measure of an arena is a mere reference to another. -/
def Arena.Defines (arena : Arena) : Prop :=
  ∀ measure ∈ arena.measures, ∀ label, measure ≠ .ref label

/-- The measures that a measure brings along: itself and its operands at any depth, without mere
references. -/
def Measure.parts : Measure → List Measure
  | .ref _ => []
  | .binary label operator left right => .binary label operator left right :: (left.parts ++ right.parts)
  | .comparison label method base positions period columnSet ancestors =>
    .comparison label method base positions period columnSet ancestors :: base.parts
  | .vector label fields axis transformer =>
    .vector label fields axis transformer :: Measure.components label fields
  | measure => [measure]

theorem Measure.component_aggregated {vector : String} {index : Nat} {fields : List (Field × String)} :
    ∀ component ∈ Measure.componentsFrom vector index fields,
      ∃ label field aggregation, component = .aggregated label field aggregation none := by
  induction fields generalizing index with
  | nil => exact fun _ listed => absurd listed List.not_mem_nil
  | cons field rest ih =>
    intro component listed
    rcases List.mem_cons.mp listed with rfl | later
    · exact ⟨_, _, _, rfl⟩
    · exact ih component later

theorem Measure.parts_ne_ref : (measure : Measure) → ∀ part ∈ measure.parts, ∀ label, part ≠ .ref label
  | .ref _, _, listed, _ => absurd listed List.not_mem_nil
  | .binary _ _ left right, part, listed, label => by
    unfold parts at listed
    rw [List.mem_cons, List.mem_append] at listed
    rcases listed with rfl | inLeft | inRight
    · exact Measure.noConfusion
    · exact parts_ne_ref left part inLeft label
    · exact parts_ne_ref right part inRight label
  | .comparison _ _ base _ _ _ _, part, listed, label => by
    rcases List.mem_cons.mp listed with rfl | inBase
    · exact Measure.noConfusion
    · exact parts_ne_ref base part inBase label
  | .vector _ _ _ _, part, listed, label => by
    rcases List.mem_cons.mp listed with rfl | inComponents
    · exact Measure.noConfusion
    · obtain ⟨_, _, _, rfl⟩ := component_aggregated part inComponents
      exact Measure.noConfusion
  | .aggregated _ _ _ _, _, listed, _ => List.mem_singleton.mp listed ▸ Measure.noConfusion
  | .expression _ _, _, listed, _ => List.mem_singleton.mp listed ▸ Measure.noConfusion
  | .count _, _, listed, _ => List.mem_singleton.mp listed ▸ Measure.noConfusion

section

variable {P : Measure → Prop}

theorem Arena.forall_add {arena grown : Arena} (before : ∀ known ∈ arena.measures, P known)
    {measure : Measure} (new : P measure) {more : Arena → Except QueryError Arena}
    (added : arena.add measure more = .ok grown)
    (rest : ∀ {next after : Arena}, (∀ known ∈ next.measures, P known) → more next = .ok after →
      ∀ known ∈ after.measures, P known) : ∀ known ∈ grown.measures, P known := by
  unfold Arena.add at added
  split at added
  · split at added
    · obtain rfl := Except.ok.inj added
      exact before
    · cases added
  · apply rest _ added
    intro other listed
    rcases List.mem_append.mp listed with old | single
    · exact before other old
    · rwa [List.mem_singleton.mp single]

theorem Arena.forall_registerComponents {components : List Measure} {arena grown : Arena}
    (before : ∀ known ∈ arena.measures, P known) (new : ∀ component ∈ components, P component)
    (registered : arena.registerComponents components = .ok grown) : ∀ known ∈ grown.measures, P known := by
  induction components generalizing arena with
  | nil =>
    obtain rfl := Except.ok.inj registered
    exact before
  | cons component rest ih =>
    obtain ⟨next, added, later⟩ := bind_eq_ok.mp registered
    apply ih _ (fun other listed => new other (List.mem_cons_of_mem _ listed)) later
    exact forall_add before (new component List.mem_cons_self) added
      fun kept same => Except.ok.inj same ▸ kept

/-- What holds of an arena and of the parts of a measure holds when the measure is registered. -/
theorem Arena.forall_register : (measure : Measure) → {arena grown : Arena} →
    (∀ known ∈ arena.measures, P known) → (∀ part ∈ measure.parts, P part) →
    arena.register measure = .ok grown → ∀ known ∈ grown.measures, P known
  | .ref _, _, _, before, _, registered => Except.ok.inj registered ▸ before
  | .binary _ _ left right, _, _, before, new, registered => by
    obtain ⟨itself, operands⟩ := List.forall_mem_cons.mp new
    obtain ⟨ofLeft, ofRight⟩ := List.forall_mem_append.mp operands
    apply forall_add before itself registered
    intro next after kept both
    obtain ⟨middle, first, second⟩ := bind_eq_ok.mp both
    exact forall_register right (forall_register left kept ofLeft first) ofRight second
  | .comparison _ _ base _ _ _ _, _, _, before, new, registered => by
    obtain ⟨itself, ofBase⟩ := List.forall_mem_cons.mp new
    exact forall_add before itself registered fun kept operand =>
      forall_register base kept ofBase operand
  | .vector _ _ _ _, _, _, before, new, registered => by
    obtain ⟨itself, components⟩ := List.forall_mem_cons.mp new
    exact forall_add before itself registered fun kept operands =>
      forall_registerComponents kept components operands
  | .aggregated _ _ _ _, _, _, before, new, registered =>
    forall_add before (new _ (List.mem_singleton_self _)) registered fun kept same =>
      Except.ok.inj same ▸ kept
  | .expression _ _, _, _, before, new, registered =>
    forall_add before (new _ (List.mem_singleton_self _)) registered fun kept same =>
      Except.ok.inj same ▸ kept
  | .count _, _, _, before, new, registered =>
    forall_add before (new _ (List.mem_singleton_self _)) registered fun kept same =>
      Except.ok.inj same ▸ kept

theorem Arena.forall_registerAll {measures : List Measure} {arena grown : Arena}
    (registered : arena.registerAll measures = .ok grown)
    (new : ∀ measure ∈ measures, ∀ part ∈ measure.parts, P part) (before : ∀ known ∈ arena.measures, P known) :
    ∀ known ∈ grown.measures, P known := by
  induction measures generalizing arena with
  | nil => exact Except.ok.inj registered ▸ before
  | cons measure rest ih =>
    obtain ⟨ofMeasure, ofRest⟩ := List.forall_mem_cons.mp new
    obtain ⟨next, first, later⟩ := bind_eq_ok.mp registered
    exact ih later ofRest (forall_register measure before ofMeasure first)

/-- An arena holds parts of its measures and nothing else. -/
theorem Arena.forall_of_build {measures : List Measure} {arena : Arena}
    (built : Arena.build measures = .ok arena)
    (new : ∀ measure ∈ measures, ∀ part ∈ measure.parts, P part) : ∀ known ∈ arena.measures, P known := by
  obtain ⟨registered, all, rest⟩ := bind_eq_ok.mp built
  split at rest
  · cases rest
  · obtain rfl := Except.ok.inj rest
    exact forall_registerAll all new fun _ listed => absurd listed List.not_mem_nil

end

theorem Arena.defines_of_build {measures : List Measure} {arena : Arena}
    (built : Arena.build measures = .ok arena) : arena.Defines :=
  Arena.forall_of_build built fun measure _ => measure.parts_ne_ref

theorem Measure.mem_operands_of_dependency {measure : Measure} {scope : Scope}
    {dependencies : List (Scope × String)} (read : measure.dependencies scope = .ok dependencies)
    {dependency : Scope × String} (member : dependency ∈ dependencies) :
    dependency.2 ∈ measure.operands := by
  unfold Measure.dependencies at read
  split at read
  · obtain rfl := Except.ok.inj read
    obtain ⟨label, listed, rfl⟩ := List.mem_map.mp member
    exact listed
  · obtain ⟨reference, -, rest⟩ := bind_eq_ok.mp read
    obtain rfl := Except.ok.inj rest
    rcases List.mem_append.mp member with own | other
    · obtain ⟨label, listed, rfl⟩ := List.mem_map.mp own
      exact listed
    · split at other
      · exact absurd other List.not_mem_nil
      · obtain ⟨label, listed, rfl⟩ := List.mem_map.mp other
        exact listed
  · obtain rfl := Except.ok.inj read
    obtain ⟨label, listed, rfl⟩ := List.mem_map.mp member
    exact listed
  · obtain rfl := Except.ok.inj read
    exact absurd member List.not_mem_nil

namespace Discovery

theorem scope_eq_ok {discovery : Discovery} {key : ScopeKey} {scope : Scope} :
    discovery.scope key = .ok scope ↔ discovery.scopes.lookup key = some scope := by
  unfold Discovery.scope
  cases discovery.scopes.lookup key <;> simp

/-- The node of a dependency. -/
def nodeOf (dependency : Scope × String) : PlanNode := ⟨dependency.1.key, dependency.2⟩

/-- The measure of a node reads these measures in these scopes. -/
def Reads (arena : Arena) (discovery : Discovery) (node : PlanNode)
    (dependencies : List (Scope × String)) : Prop :=
  ∃ scope measure, discovery.scopes.lookup node.scope = some scope ∧
    arena.find? node.measure = some measure ∧ measure.dependencies scope = .ok dependencies

/-! ### One dependency -/

theorem lookup_isSome_iff {scopes : List (ScopeKey × Scope)} {key : ScopeKey} :
    (scopes.lookup key).isSome = true ↔ key ∈ scopes.map (·.1) := by
  rw [Option.isSome_iff_ne_none, Ne, List.lookup_eq_none_iff]
  simp

theorem lookup_addScope_old {discovery : Discovery} {key other : ScopeKey} {scope known : Scope}
    (found : discovery.scopes.lookup other = some known) :
    (discovery.addScope key scope).scopes.lookup other = some known := by
  unfold addScope
  split
  · exact found
  · rw [List.lookup_append, found]
    rfl

theorem lookup_addScope_self (discovery : Discovery) (key : ScopeKey) (scope : Scope) :
    ∃ known, (discovery.addScope key scope).scopes.lookup key = some known := by
  unfold addScope
  by_cases present : (discovery.scopes.lookup key).isSome = true
  · rw [if_pos present]
    exact Option.isSome_iff_exists.mp present
  · rw [if_neg present, List.lookup_append, Option.not_isSome_iff_eq_none.mp present]
    exact ⟨scope, by simp⟩

theorem lookup_addScope {discovery : Discovery} {key other : ScopeKey} {scope known : Scope}
    (found : (discovery.addScope key scope).scopes.lookup other = some known) :
    discovery.scopes.lookup other = some known ∨ (other = key ∧ known = scope) := by
  unfold addScope at found
  split at found
  · exact .inl found
  · rw [List.lookup_append] at found
    cases old : discovery.scopes.lookup other with
    | some earlier =>
      rw [old] at found
      exact .inl found
    | none =>
      rw [old, Option.none_or, List.lookup_cons] at found
      by_cases same : other = key
      · simp [same] at found
        exact .inr ⟨same, found.symm⟩
      · rw [beq_eq_false_iff_ne.mpr same] at found
        cases found

theorem addScope_graph (discovery : Discovery) (key : ScopeKey) (scope : Scope) :
    (discovery.addScope key scope).graph = discovery.graph := by
  unfold addScope
  split <;> rfl

/-! ### Expansion -/

/-- What an expansion adds: the scopes and nodes of the dependencies, and edges to them. -/
structure Expands (before after : Discovery) (node : PlanNode)
    (dependencies : List (Scope × String)) : Prop where
  wellFormed : after.graph.WellFormed
  kept : before.graph.nodes <+: after.graph.nodes
  nodes : ∀ other, other ∈ after.graph.nodes ↔
    other ∈ before.graph.nodes ∨ ∃ dependency ∈ dependencies, other = nodeOf dependency
  edges : ∀ index other, after.graph.Edge index other ↔ before.graph.Edge index other ∨
    (after.graph.nodes[index]? = some node ∧
      ∃ dependency ∈ dependencies, after.graph.nodes[other]? = some (nodeOf dependency))
  known : ∀ {key scope}, before.scopes.lookup key = some scope → after.scopes.lookup key = some scope
  covers : ∀ dependency ∈ dependencies, ∃ scope, after.scopes.lookup dependency.1.key = some scope
  found : ∀ {key scope}, after.scopes.lookup key = some scope →
    before.scopes.lookup key = some scope ∨
      ∃ dependency ∈ dependencies, key = dependency.1.key ∧ scope = dependency.1

theorem Expands.refl {discovery : Discovery} (wellFormed : discovery.graph.WellFormed)
    (node : PlanNode) : discovery.Expands discovery node [] where
  wellFormed := wellFormed
  kept := List.prefix_refl _
  nodes := by simp
  edges := by simp
  known := id
  covers := by simp
  found := .inl

theorem addDependency_expands {discovery : Discovery} (wellFormed : discovery.graph.WellFormed)
    {node : PlanNode} (listed : node ∈ discovery.graph.nodes) (dependency : Scope × String) :
    discovery.Expands (addDependency node discovery dependency) node [dependency] := by
  have adds := Graph.addDependency_adds wellFormed node (nodeOf dependency)
  have graph_eq : (addDependency node discovery dependency).graph =
      discovery.graph.addDependency node (nodeOf dependency) := by
    unfold addDependency
    simp only [addScope_graph]
    rfl
  rw [← graph_eq] at adds
  refine ⟨adds.wellFormed, adds.kept, ?_, ?_, ?_, ?_, ?_⟩
  · intro other
    rw [adds.nodes]
    constructor
    · rintro (old | rfl | rfl)
      · exact .inl old
      · exact .inl listed
      · exact .inr ⟨dependency, List.mem_singleton_self _, rfl⟩
    · rintro (old | ⟨only, single, rfl⟩)
      · exact .inl old
      · rw [List.mem_singleton.mp single]
        exact .inr (.inr rfl)
  · intro index other
    rw [adds.edges]
    simp
  · intro key scope old
    exact lookup_addScope_old old
  · intro only single
    rw [List.mem_singleton.mp single]
    exact lookup_addScope_self discovery _ _
  · intro key scope new
    rcases lookup_addScope new with old | ⟨key_eq, scope_eq⟩
    · exact .inl old
    · exact .inr ⟨dependency, List.mem_singleton_self _, key_eq, scope_eq⟩

theorem Expands.edges_cons {first second third : Discovery} {node : PlanNode}
    {dependency : Scope × String} {rest : List (Scope × String)}
    (start : first.Expands second node [dependency]) (others : second.Expands third node rest)
    (listed : node ∈ first.graph.nodes) (index other : Nat) :
    third.graph.Edge index other ↔ first.graph.Edge index other ∨
      (third.graph.nodes[index]? = some node ∧
        ∃ read ∈ dependency :: rest, third.graph.nodes[other]? = some (nodeOf read)) := by
  have same {item : PlanNode} (present : item ∈ second.graph.nodes) (place : Nat) :
      second.graph.nodes[place]? = some item ↔ third.graph.nodes[place]? = some item :=
    others.wellFormed.getElem?_of_kept others.kept present
  have dependencyListed : nodeOf dependency ∈ second.graph.nodes :=
    (start.nodes _).mpr (.inr ⟨dependency, List.mem_singleton_self _, rfl⟩)
  rw [others.edges, start.edges]
  simp only [List.mem_cons, exists_eq_or_imp]
  rw [same (start.kept.subset listed), same dependencyListed]
  tauto

theorem Expands.cons {first second third : Discovery} {node : PlanNode}
    {dependency : Scope × String} {rest : List (Scope × String)}
    (start : first.Expands second node [dependency]) (others : second.Expands third node rest)
    (listed : node ∈ first.graph.nodes) :
    first.Expands third node (dependency :: rest) where
  wellFormed := others.wellFormed
  kept := start.kept.trans others.kept
  nodes := by
    intro other
    rw [others.nodes, start.nodes]
    simp [or_assoc]
  edges := start.edges_cons others listed
  known := fun old => others.known (start.known old)
  covers := by
    intro other member
    rcases List.mem_cons.mp member with rfl | later
    · obtain ⟨scope, known⟩ := start.covers other (List.mem_singleton_self _)
      exact ⟨scope, others.known known⟩
    · exact others.covers other later
  found := by
    intro key scope new
    rcases others.found new with old | ⟨other, later, rest⟩
    · rcases start.found old with older | ⟨other, single, rest⟩
      · exact .inl older
      · rw [List.mem_singleton.mp single] at rest
        exact .inr ⟨dependency, List.mem_cons_self, rest⟩
    · exact .inr ⟨other, List.mem_cons_of_mem _ later, rest⟩

theorem foldl_addDependency_expands {discovery : Discovery} (wellFormed : discovery.graph.WellFormed)
    {node : PlanNode} (listed : node ∈ discovery.graph.nodes)
    (dependencies : List (Scope × String)) :
    discovery.Expands (dependencies.foldl (addDependency node) discovery) node dependencies := by
  induction dependencies generalizing discovery with
  | nil => exact .refl wellFormed node
  | cons dependency rest ih =>
    rw [List.foldl_cons]
    have first := addDependency_expands wellFormed listed dependency
    exact first.cons (ih first.wellFormed (first.kept.subset listed)) listed

/-! ### The nodes so far -/

/-- The state of a discovery when the nodes before `place` have been expanded. -/
structure Expanded (arena : Arena) (place : Nat) (discovery : Discovery) : Prop where
  wellFormed : discovery.graph.WellFormed
  keyed : ∀ {key scope}, discovery.scopes.lookup key = some scope → scope.key = key
  placed : ∀ node ∈ discovery.graph.nodes, ∃ scope, discovery.scopes.lookup node.scope = some scope
  measured : ∀ node ∈ discovery.graph.nodes, ∃ measure, arena.find? node.measure = some measure
  /-- The edges of an expanded node lead to what it reads. -/
  reads : ∀ {index node}, index < place → discovery.graph.nodes[index]? = some node →
    ∃ dependencies, discovery.Reads arena node dependencies ∧
      (∀ dependency ∈ dependencies, nodeOf dependency ∈ discovery.graph.nodes) ∧
      ∀ other, discovery.graph.Edge index other ↔
        ∃ dependency ∈ dependencies, discovery.graph.nodes[other]? = some (nodeOf dependency)
  pending : ∀ {index other}, discovery.graph.Edge index other → index < place

theorem Reads.mono {arena : Arena} {before after : Discovery} {node : PlanNode}
    {dependencies : List (Scope × String)} (reads : before.Reads arena node dependencies)
    (known : ∀ {key scope}, before.scopes.lookup key = some scope →
      after.scopes.lookup key = some scope) : after.Reads arena node dependencies := by
  obtain ⟨scope, measure, scopeFound, rest⟩ := reads
  exact ⟨scope, measure, known scopeFound, rest⟩

/-- The step of a discovery adds what the node reads. -/
theorem expand_expands {arena : Arena} {before after : Discovery} {node : PlanNode}
    (wellFormed : before.graph.WellFormed) (listed : node ∈ before.graph.nodes)
    (step : before.expand arena node = .ok after) :
    ∃ dependencies, before.Reads arena node dependencies ∧ before.Expands after node dependencies := by
  obtain ⟨scope, scopeFound, rest⟩ := bind_eq_ok.mp step
  obtain ⟨measure, measureFound, rest⟩ := bind_eq_ok.mp rest
  obtain ⟨dependencies, dependencies_eq, rest⟩ := bind_eq_ok.mp rest
  obtain rfl := Except.ok.inj rest
  exact ⟨dependencies,
    ⟨scope, measure, scope_eq_ok.mp scopeFound, Arena.get_eq_ok.mp measureFound, dependencies_eq⟩,
    foldl_addDependency_expands wellFormed listed dependencies⟩

theorem Expanded.expand {arena : Arena} {place : Nat} {before after : Discovery} {node : PlanNode}
    {dependencies : List (Scope × String)} (closed : arena.Closed)
    (expanded : before.Expanded arena place) (next : before.graph.nodes[place]? = some node)
    (reads : before.Reads arena node dependencies)
    (expands : before.Expands after node dependencies) : after.Expanded arena (place + 1) := by
  have nextStands := (expands.wellFormed.getElem?_of_kept expands.kept
    (List.mem_of_getElem? next)).mp next
  refine ⟨expands.wellFormed, ?_, ?_, ?_, ?_, ?_⟩
  · intro key scope new
    rcases expands.found new with old | ⟨dependency, -, rfl, rfl⟩
    · exact expanded.keyed old
    · rfl
  · intro other listed
    rcases (expands.nodes other).mp listed with old | ⟨dependency, member, rfl⟩
    · obtain ⟨scope, known⟩ := expanded.placed other old
      exact ⟨scope, expands.known known⟩
    · exact expands.covers dependency member
  · intro other listed
    rcases (expands.nodes other).mp listed with old | ⟨dependency, member, rfl⟩
    · exact expanded.measured other old
    · obtain ⟨scope, measure, -, measureFound, read⟩ := reads
      exact closed measure (List.mem_of_find?_eq_some measureFound) _
        (measure.mem_operands_of_dependency read member)
  · intro index other below stands
    by_cases last : index = place
    · rw [last] at stands ⊢
      obtain rfl := Option.some.inj (nextStands.symm.trans stands)
      refine ⟨dependencies, reads.mono expands.known, fun dependency member =>
        (expands.nodes _).mpr (.inr ⟨dependency, member, rfl⟩), fun other => ?_⟩
      rw [expands.edges]
      constructor
      · rintro (old | ⟨-, target⟩)
        · exact absurd (expanded.pending old) (Nat.lt_irrefl place)
        · exact target
      · exact fun target => .inr ⟨nextStands, target⟩
    · have earlier : index < place := by omega
      obtain ⟨inside, -⟩ := List.getElem?_eq_some_iff.mp next
      have oldListed : other ∈ before.graph.nodes := by
        have present : before.graph.nodes[index]? = some before.graph.nodes[index] :=
          List.getElem?_eq_getElem (Nat.lt_trans earlier inside)
        have moved := (expands.wellFormed.getElem?_of_kept expands.kept
          (List.mem_of_getElem? present)).mp present
        rw [Option.some.inj (stands.symm.trans moved)]
        exact List.mem_of_getElem? present
      have oldStands := (expands.wellFormed.getElem?_of_kept expands.kept oldListed).mpr stands
      obtain ⟨known, knownReads, present, edges⟩ := expanded.reads earlier oldStands
      refine ⟨known, knownReads.mono expands.known,
        fun dependency member => expands.kept.subset (present dependency member), fun target => ?_⟩
      rw [expands.edges, edges]
      constructor
      · rintro (⟨dependency, member, targetStands⟩ | ⟨indexStands, -⟩)
        · exact ⟨dependency, member,
            (expands.wellFormed.getElem?_of_kept expands.kept (present dependency member)).mp
              targetStands⟩
        · exact absurd (expands.wellFormed.index_unique indexStands nextStands) last
      · rintro ⟨dependency, member, targetStands⟩
        exact .inl ⟨dependency, member,
          (expands.wellFormed.getElem?_of_kept expands.kept (present dependency member)).mpr
            targetStands⟩
  · intro index other edge
    rcases (expands.edges index other).mp edge with old | ⟨stands, -⟩
    · exact Nat.lt_succ_of_lt (expanded.pending old)
    · rw [expands.wellFormed.index_unique stands nextStands]
      exact Nat.lt_succ_self place

/-! ### The order of scopes -/

theorem prefix_addScope (discovery : Discovery) (key : ScopeKey) (scope : Scope) :
    discovery.scopes <+: (discovery.addScope key scope).scopes := by
  unfold addScope
  split
  · exact List.prefix_refl _
  · exact List.prefix_append _ _

theorem prefix_foldl (node : PlanNode) (discovery : Discovery) (dependencies : List (Scope × String)) :
    discovery.scopes <+: (dependencies.foldl (addDependency node) discovery).scopes := by
  induction dependencies generalizing discovery with
  | nil => exact List.prefix_refl _
  | cons dependency rest ih =>
    exact (discovery.prefix_addScope dependency.1.key dependency.1).trans
      (ih (addDependency node discovery dependency))

/-- A discovery finds scopes behind those that it has. -/
theorem prefix_run {arena : Arena} {bound place : Nat} {before after : Discovery}
    (ran : run arena bound place before = .ok after) : before.scopes <+: after.scopes := by
  induction bound generalizing place before with
  | zero =>
    obtain rfl := Except.ok.inj ran
    exact List.prefix_refl _
  | succ bound ih =>
    unfold Discovery.run at ran
    split at ran
    · obtain rfl := Except.ok.inj ran
      exact List.prefix_refl _
    · obtain ⟨grown, step, rest⟩ := bind_eq_ok.mp ran
      unfold Discovery.expand at step
      obtain ⟨_, -, step⟩ := bind_eq_ok.mp step
      obtain ⟨_, -, step⟩ := bind_eq_ok.mp step
      obtain ⟨dependencies, -, step⟩ := bind_eq_ok.mp step
      obtain rfl := Except.ok.inj step
      exact (prefix_foldl _ before dependencies).trans (ih rest)

end Discovery

end CubeQuery
