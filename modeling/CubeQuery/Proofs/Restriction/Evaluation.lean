import CubeQuery.Proofs.Execution.Followers
import CubeQuery.Proofs.Execution.Settled
import CubeQuery.Proofs.Restriction.Columns

/-! The run of a query over some of its rows, against the run over all of them. Scopes that are derived
from the query's own drop its filters after grouping, so they are the same in both runs; only the own
scope of the query has fewer rows. -/

namespace CubeQuery

open Steps

/-! ### Scopes -/

/-- The query without its filters after grouping. -/
def Query.unrestricted (query : Query) : Query := { query with havingCriteria := none, limit := none }

theorem Scope.ofQuery_unrestricted (query : Query) :
    Scope.ofQuery query.unrestricted = (Scope.ofQuery query).prefetch := rfl

/-- With its filters and without them, a scope has the same references, but for those by buckets: these
are the rows of the scope itself. -/
theorem Scope.forComparison_prefetch {scope reference other : Scope} {label : String}
    {period : Option Period} {columnSet : Option ColumnSetKey} {ancestors : Option (List Field)}
    (found : scope.forComparison label period columnSet ancestors = .ok reference)
    (otherFound : scope.prefetch.forComparison label period columnSet ancestors = .ok other) :
    other = reference ∨ period = none ∧ ancestors = none ∧ columnSet = some .bucket ∧
      reference = scope ∧ other = scope.prefetch := by
  rcases forComparison_cases found with ⟨calendar, rfl, -, rfl⟩ | ⟨fields, rfl, rfl, rfl⟩ |
    ⟨rfl, rfl, rfl, -, rfl⟩
  · rcases forComparison_cases otherFound with ⟨_, same, -, rfl⟩ | ⟨_, none, -⟩ | ⟨none, -⟩
    · obtain rfl := Option.some.inj same
      exact .inl rfl
    · cases none
    · cases none
  · rcases forComparison_cases otherFound with ⟨_, some, -⟩ | ⟨_, -, same, rfl⟩ | ⟨-, none, -⟩
    · cases some
    · obtain rfl := Option.some.inj same
      exact .inl rfl
    · cases none
  · rcases forComparison_cases otherFound with ⟨_, some, -⟩ | ⟨_, -, some, -⟩ | ⟨-, -, -, -, rfl⟩
    · cases some
    · cases some
    · exact .inr ⟨rfl, rfl, rfl, rfl, rfl⟩

namespace Plan

variable {plan free : Plan} {query : Query} {kept : List Nat}

/-- The plan of a query and that of the query without its filters after grouping. -/
structure FreedBy (plan free : Plan) (query : Query) : Prop where
  built : plan.WellBuilt query
  otherBuilt : free.WellBuilt query.unrestricted
  apart : plan.KeysTellApart
  otherApart : free.KeysTellApart
  arena : free.arena = plan.arena
  requested : free.requested = plan.requested

/-- The scopes of the two plans that stand for each other, with the rows that the first has of those of
the second: the own scope has the rows that are kept, any other that both plans have has them all. -/
inductive Counterpart (plan free : Plan) (kept : List Nat) : Scope → Scope → (Table → List Nat) → Prop
  | own {scope : Scope} (planned : plan.discovery.scopes.lookup scope.key = some scope)
      (otherPlanned : free.discovery.scopes.lookup scope.prefetch.key = some scope.prefetch)
      (root : plan.root = scope.key) : Counterpart plan free kept scope scope.prefetch fun _ => kept
  | derived {scope : Scope} (planned : plan.discovery.scopes.lookup scope.key = some scope)
      (otherPlanned : free.discovery.scopes.lookup scope.key = some scope) :
      Counterpart plan free kept scope scope Table.rowIndices

/-- The tables of a run have the rows that are kept of the tables of the other. -/
def Restricts (plan free : Plan) (kept : List Nat) (tables wholes : ScopeTables) : Prop :=
  ∀ ⦃scope other rows⦄, plan.Counterpart free kept scope other rows → ∃ table whole,
    tables.lookup scope.key = some table ∧ wholes.lookup other.key = some whole ∧
      table.Selects whole (rows whole)

/-- Of the points that bucket comparisons of the own scope refer to, no row is missing. -/
def KeepsReferences (plan : Plan) (scope : Scope) (table whole : Table) : Prop :=
  ∀ label name method base positions, ⟨plan.root, label⟩ ∈ plan.graph.nodes →
    plan.arena.find? label = some (.comparison name method base positions none (some .bucket) none) →
    ∀ shifter, Shifter.ofComparison scope name positions none (some .bucket) none table.groupingNames =
      .ok shifter → ∀ point ∈ table.points, ∀ target, shifter.shift point = some target →
        whole.points.count target ≤ table.points.count target

/-- The tables of the own scopes keep the references. -/
def OwnReferences (plan free : Plan) (query : Query) (tables wholes : ScopeTables) : Prop :=
  ∃ table whole, tables.lookup plan.root = some table ∧ wholes.lookup free.root = some whole ∧
    plan.KeepsReferences (.ofQuery query) table whole

namespace Counterpart

variable {scope other : Scope} {rows : Table → List Nat}

theorem planned (pair : plan.Counterpart free kept scope other rows) :
    plan.discovery.scopes.lookup scope.key = some scope := by
  cases pair <;> assumption

theorem otherPlanned (pair : plan.Counterpart free kept scope other rows) :
    free.discovery.scopes.lookup other.key = some other := by
  cases pair <;> assumption

theorem shifter_eq (pair : plan.Counterpart free kept scope other rows) :
    Shifter.ofComparison other = Shifter.ofComparison scope := by
  cases pair <;> rfl

theorem forVector_eq (pair : plan.Counterpart free kept scope other rows) (axis : Field) :
    other.forVector axis = scope.forVector axis := by
  cases pair <;> rfl

/-- The references of counterparts are counterparts. -/
theorem reference (pair : plan.Counterpart free kept scope other rows) {reference otherReference : Scope}
    {label : String} {period : Option Period} {columnSet : Option ColumnSetKey}
    {ancestors : Option (List Field)}
    (found : scope.forComparison label period columnSet ancestors = .ok reference)
    (otherFound : other.forComparison label period columnSet ancestors = .ok otherReference)
    (planned : plan.discovery.scopes.lookup reference.key = some reference)
    (otherPlanned : free.discovery.scopes.lookup otherReference.key = some otherReference) :
    plan.Counterpart free kept reference otherReference Table.rowIndices ∨
      plan.root = scope.key ∧ other = scope.prefetch ∧ rows = (fun _ => kept) ∧ period = none ∧
        ancestors = none ∧ columnSet = some .bucket ∧ reference = scope ∧ otherReference = other := by
  cases pair with
  | own _ _ root =>
    rcases Scope.forComparison_prefetch found otherFound with rfl | ⟨rfl, rfl, rfl, rfl, rfl⟩
    · exact .inl (.derived planned otherPlanned)
    · exact .inr ⟨root, rfl, rfl, rfl, rfl, rfl, rfl, rfl⟩
  | derived =>
    obtain rfl := Except.ok.inj (found.symm.trans otherFound)
    exact .inl (.derived planned otherPlanned)

end Counterpart

/-! ### Nodes -/

variable {tables wholes : ScopeTables} {scope other : Scope} {rows : Table → List Nat}

theorem Restricts.comparison (restricts : plan.Restricts free kept tables wholes)
    (freed : plan.FreedBy free query) (formed : wholes.Formed)
    (references : plan.OwnReferences free query tables wholes)
    (pair : plan.Counterpart free kept scope other rows)
    {measure : String} (listed : ⟨scope.key, measure⟩ ∈ plan.graph.nodes)
    (otherListed : ⟨other.key, measure⟩ ∈ free.graph.nodes) {label : String} {method : ComparisonMethod}
    {base : Measure} {positions : SortedMap Field String} {period : Option Period}
    {columnSet : Option ColumnSetKey} {ancestors : Option (List Field)}
    (measureFound : plan.arena.find? measure =
      some (.comparison label method base positions period columnSet ancestors))
    {current whole reference wholeReference : Table}
    (currentFound : tables.lookup scope.key = some current)
    (wholeFound : wholes.lookup other.key = some whole) (selects : current.Selects whole (rows whole))
    (referenceFound : tables.get (plan.referenceScope ⟨scope.key, measure⟩) = .ok reference)
    (wholeReferenceFound : wholes.get (free.referenceScope ⟨other.key, measure⟩) = .ok wholeReference)
    {values others : List Value}
    (ran : method.column base.label current reference
      (Shifter.ofComparison scope label positions period columnSet ancestors) = .ok values)
    (wholeRan : method.column base.label whole wholeReference
      (Shifter.ofComparison other label positions period columnSet ancestors) = .ok others) :
    values = valuesAt (rows whole) others := by
  have otherMeasureFound := measureFound
  rw [← freed.arena] at otherMeasureFound
  obtain ⟨target, targetFound, target_eq, -, dependent⟩ :=
    freed.built.referenceScope_eq listed pair.planned measureFound
  obtain ⟨otherTarget, otherTargetFound, otherTarget_eq, -, otherDependent⟩ :=
    freed.otherBuilt.referenceScope_eq otherListed pair.otherPlanned otherMeasureFound
  have planned := freed.built.lookup_dependency freed.apart listed dependent
    (freed.built.involves_reference listed pair.planned measureFound targetFound)
  have otherPlanned := freed.otherBuilt.lookup_dependency freed.otherApart otherListed otherDependent
    (freed.otherBuilt.involves_reference otherListed pair.otherPlanned otherMeasureFound otherTargetFound)
  rw [target_eq] at referenceFound
  rw [otherTarget_eq] at wholeReferenceFound
  have referenceKnown := ScopeTables.get_eq_ok.mp referenceFound
  have wholeReferenceKnown := ScopeTables.get_eq_ok.mp wholeReferenceFound
  rw [pair.shifter_eq] at wholeRan
  rcases pair.reference targetFound otherTargetFound planned otherPlanned with derived |
    ⟨root, rfl, rfl, rfl, rfl, rfl, rfl, rfl⟩
  · obtain ⟨table, wholeTable, found, wholeTableFound, referenceSelects⟩ := restricts derived
    obtain rfl := Option.some.inj (referenceKnown.symm.trans found)
    obtain rfl := Option.some.inj (wholeReferenceKnown.symm.trans wholeTableFound)
    exact ComparisonMethod.column_picked selects referenceSelects (fun _ _ _ _ _ _ _ _ => rfl) ran
      wholeRan
  · -- A bucket comparison in the own scope refers to the rows that are kept.
    obtain rfl := Option.some.inj (currentFound.symm.trans referenceKnown)
    obtain rfl := Option.some.inj (wholeFound.symm.trans wholeReferenceKnown)
    have ownScope := freed.built.rootScope
    rw [root] at ownScope
    obtain rfl := Option.some.inj (pair.planned.symm.trans ownScope)
    obtain ⟨own, ownWhole, ownFound, ownWholeFound, keeps⟩ := references
    rw [root] at ownFound
    rw [freed.otherBuilt.root] at ownWholeFound
    obtain rfl := Option.some.inj (currentFound.symm.trans ownFound)
    obtain rfl := Option.some.inj (wholeFound.symm.trans ownWholeFound)
    have kept_all := keeps measure label method base positions (root ▸ listed) measureFound
    refine ComparisonMethod.column_picked selects selects
      (fun shifter grouping shifterFound groupingFound point member target shifted => ?_) ran wholeRan
    have grouping_eq := (formed wholeFound).1.columnsNamed_eq
      (List.filter_sublist (p := fun column : Column => !column.header.isMeasure)).subset
    obtain rfl := Except.ok.inj (grouping_eq.symm.trans groupingFound)
    rw [← selects.groupingNames_eq] at shifterFound
    exact selects.filter_eq (kept_all shifter shifterFound point member target shifted)

theorem Restricts.vector (restricts : plan.Restricts free kept tables wholes)
    (freed : plan.FreedBy free query) (formed : wholes.Formed)
    (pair : plan.Counterpart free kept scope other rows)
    {measure : String} (listed : ⟨scope.key, measure⟩ ∈ plan.graph.nodes)
    (otherListed : ⟨other.key, measure⟩ ∈ free.graph.nodes) {label : String}
    {fields : List (Field × String)} {axis : Field} {transformer : Option String}
    (measureFound : plan.arena.find? measure = some (.vector label fields axis transformer))
    (nonempty : fields ≠ []) {current whole vectors wholeVectors : Table}
    (selects : current.Selects whole (rows whole)) {key otherKey : ScopeKey}
    (key_eq : plan.vectorScope ⟨scope.key, measure⟩ = .ok key)
    (otherKey_eq : free.vectorScope ⟨other.key, measure⟩ = .ok otherKey)
    (vectorsFound : tables.get key = .ok vectors) (wholeVectorsFound : wholes.get otherKey = .ok wholeVectors)
    {components : List String} {values others : List Value}
    (ran : vectorColumn components axis.name transformer current vectors = .ok values)
    (wholeRan : vectorColumn components axis.name transformer whole wholeVectors = .ok others) :
    values = valuesAt (rows whole) others := by
  have otherMeasureFound := measureFound
  rw [← freed.arena] at otherMeasureFound
  obtain ⟨scope_eq, operands⟩ := freed.built.vectorScope_eq listed pair.planned measureFound nonempty
  obtain ⟨otherScope_eq, otherOperands⟩ :=
    freed.otherBuilt.vectorScope_eq otherListed pair.otherPlanned otherMeasureFound nonempty
  obtain ⟨component, member⟩ : ∃ component, component ∈ Measure.components label fields := by
    cases fields with
    | nil => exact absurd rfl nonempty
    | cons field more => exact ⟨_, List.mem_cons_self⟩
  have planned := freed.built.lookup_dependency freed.apart listed (operands component member)
    (freed.built.involves_vectors listed pair.planned measureFound nonempty)
  have otherPlanned := freed.otherBuilt.lookup_dependency freed.otherApart otherListed
    (otherOperands component member)
    (freed.otherBuilt.involves_vectors otherListed pair.otherPlanned otherMeasureFound nonempty)
  rw [pair.forVector_eq] at otherPlanned otherScope_eq
  obtain rfl := Except.ok.inj (scope_eq.symm.trans key_eq)
  obtain rfl := Except.ok.inj (otherScope_eq.symm.trans otherKey_eq)
  obtain ⟨table, wholeTable, found, wholeTableFound, vectorsSelect⟩ :=
    restricts (.derived planned otherPlanned)
  obtain rfl := Option.some.inj ((ScopeTables.get_eq_ok.mp vectorsFound).symm.trans found)
  obtain rfl := Option.some.inj ((ScopeTables.get_eq_ok.mp wholeVectorsFound).symm.trans wholeTableFound)
  exact vectorColumn_picked selects vectorsSelect (formed wholeTableFound).1.lengths ran wholeRan

/-- What a node gives over the rows that are kept is what it gives over all of them, at these rows. -/
theorem Restricts.nodeColumn (restricts : plan.Restricts free kept tables wholes)
    (freed : plan.FreedBy free query) (formed : wholes.Formed)
    (references : plan.OwnReferences free query tables wholes)
    (pair : plan.Counterpart free kept scope other rows)
    {measure : String} (listed : ⟨scope.key, measure⟩ ∈ plan.graph.nodes)
    (otherListed : ⟨other.key, measure⟩ ∈ free.graph.nodes)
    {whole : Table} (wholeFound : wholes.lookup other.key = some whole) {values others : List Value}
    (ran : plan.nodeColumn tables ⟨scope.key, measure⟩ = .ok values)
    (wholeRan : free.nodeColumn wholes ⟨other.key, measure⟩ = .ok others) :
    values = valuesAt (rows whole) others := by
  obtain ⟨table, wholeTable, found, wholeTableFound, selects⟩ := restricts pair
  obtain rfl := Option.some.inj (wholeFound.symm.trans wholeTableFound)
  unfold Plan.nodeColumn at ran wholeRan
  obtain ⟨definition, definitionFound, ran⟩ := bind_eq_ok.mp ran
  rw [freed.arena, definitionFound, ok_bind, ScopeTables.get_eq_ok.mpr wholeFound, ok_bind] at wholeRan
  rw [ScopeTables.get_eq_ok.mpr found, ok_bind] at ran
  have measureFound := Arena.get_eq_ok.mp definitionFound
  cases definition with
  | binary label operator left right =>
    exact BinaryOperator.column_picked selects (formed wholeFound).1.lengths ran wholeRan
  | comparison label method base positions period columnSet ancestors =>
    simp only [show plan.scope scope.key = .ok scope from Discovery.scope_eq_ok.mpr pair.planned,
      show free.scope other.key = .ok other from Discovery.scope_eq_ok.mpr pair.otherPlanned, ok_bind]
      at ran wholeRan
    obtain ⟨reference, referenceFound, ran⟩ := bind_eq_ok.mp ran
    obtain ⟨wholeReference, wholeReferenceFound, wholeRan⟩ := bind_eq_ok.mp wholeRan
    exact restricts.comparison freed formed references pair listed otherListed measureFound found
      wholeFound selects referenceFound wholeReferenceFound ran wholeRan
  | vector label fields axis transformer =>
    obtain ⟨key, key_eq, ran⟩ := bind_eq_ok.mp ran
    obtain ⟨vectors, vectorsFound, ran⟩ := bind_eq_ok.mp ran
    obtain ⟨otherKey, otherKey_eq, wholeRan⟩ := bind_eq_ok.mp wholeRan
    obtain ⟨wholeVectors, wholeVectorsFound, wholeRan⟩ := bind_eq_ok.mp wholeRan
    have nonempty : fields ≠ [] := by
      rintro rfl
      rw [freed.built.vectorScope_nil listed measureFound] at key_eq
      cases key_eq
    exact restricts.vector freed formed pair listed otherListed measureFound nonempty selects key_eq
      otherKey_eq vectorsFound wholeVectorsFound ran wholeRan
  | aggregated | expression | count | ref => cases ran

/-! ### Runs -/

/-- Measures behind the columns change no reference. -/
theorem KeepsReferences.extend {table whole : Table} (keeps : plan.KeepsReferences scope table whole)
    (nonempty : table.columns ≠ []) {added : List Column}
    (measures : ∀ column ∈ added, column.header.isMeasure = true) :
    plan.KeepsReferences scope (table.extend added) whole := by
  unfold KeepsReferences
  rw [Table.points_extend nonempty measures, Table.groupingNames_extend measures]
  exact keeps

theorem OwnReferences.grows (references : plan.OwnReferences free query tables wholes)
    (formed : tables.Formed) {later : ScopeTables} (grows : plan.Grows tables later) :
    plan.OwnReferences free query later wholes := by
  obtain ⟨table, whole, found, wholeFound, keeps⟩ := references
  obtain ⟨added, computed, laterFound⟩ := grows found
  exact ⟨_, whole, laterFound, wholeFound, keeps.extend (formed found).2 fun column listed =>
    (computed column listed).measure⟩

/-- The step of a run. -/
theorem Restricts.evaluateNode (restricts : plan.Restricts free kept tables wholes)
    (freed : plan.FreedBy free query) (tablesFormed : tables.Formed) (formed : wholes.Formed)
    (settled : free.Settled wholes) (references : plan.OwnReferences free query tables wholes)
    {node : PlanNode} (listed : node ∈ plan.graph.nodes) {next : ScopeTables}
    (ran : plan.evaluateNode tables node = .ok next) : plan.Restricts free kept next wholes := by
  obtain ⟨values, table, values_eq, found, new, -, rfl⟩ := evaluateNode_eq_ok tablesFormed ran
  have inMemory := isInMemory_of_nodeColumn values_eq
  obtain ⟨key, measure⟩ := node
  intro scope other rows pair
  obtain ⟨old, whole, oldFound, wholeFound, selects⟩ := restricts pair
  by_cases here : scope.key = key
  · subst here
    obtain rfl := Option.some.inj (found.symm.trans oldFound)
    refine ⟨_, whole, ScopeTables.lookup_set_self found _, wholeFound, selects.extend
      (tablesFormed found).2 rfl fun column columnFound => ?_⟩
    have named : column.name = measure := Table.name_of_find? columnFound
    have isMeasure : column.header.isMeasure = true := by
      by_contra grouping
      have grouped : column.name ∈ whole.groupingNames := List.mem_map_of_mem
        (List.mem_filter.mpr ⟨Table.mem_of_find? columnFound, by simpa using grouping⟩)
      rw [named, ← selects.groupingNames_eq] at grouped
      exact new (table.groupingNames_subset grouped)
    have otherInMemory : free.isInMemory ⟨other.key, measure⟩ = true := by
      unfold isInMemory at inMemory ⊢
      rwa [freed.arena]
    obtain ⟨otherListed, given⟩ := settled wholeFound columnFound isMeasure otherInMemory
    exact restricts.nodeColumn freed formed references pair listed otherListed wholeFound values_eq given
  · refine ⟨old, whole, ?_, wholeFound, selects⟩
    rw [ScopeTables.lookup_set_other here]
    exact oldFound

/-- The run. -/
theorem Restricts.evaluateNodes (restricts : plan.Restricts free kept tables wholes)
    (freed : plan.FreedBy free query) (tablesFormed : tables.Formed) (formed : wholes.Formed)
    (settled : free.Settled wholes) (references : plan.OwnReferences free query tables wholes)
    {order : List PlanNode} (listed : order ⊆ plan.graph.nodes) {final : ScopeTables}
    (ran : plan.evaluateNodes order tables = .ok final) : plan.Restricts free kept final wholes := by
  induction order generalizing tables with
  | nil =>
    obtain rfl := Except.ok.inj ran
    exact restricts
  | cons node rest ih =>
    obtain ⟨here, later⟩ := List.cons_subset.mp listed
    unfold Plan.evaluateNodes at ran
    obtain ⟨next, step, ran⟩ := bind_eq_ok.mp ran
    obtain ⟨nextFormed, grows⟩ := evaluateNode_grows tablesFormed step
    exact ih (restricts.evaluateNode freed tablesFormed formed settled references here step)
      nextFormed (references.grows tablesFormed grows) later ran

theorem Counterpart.rows_extend (pair : plan.Counterpart free kept scope other rows) {whole : Table}
    (nonempty : whole.columns ≠ []) (added : List Column) : rows (whole.extend added) = rows whole := by
  cases pair with
  | own => rfl
  | derived => exact Table.rowIndices_extend nonempty

/-- The tables of the other run may be those at its end. -/
theorem Restricts.grows (restricts : plan.Restricts free kept tables wholes)
    (stored : plan.Stored tables) (sameArena : free.arena = plan.arena) (formed : wholes.Formed)
    {later : ScopeTables} (grows : free.Grows wholes later) : plan.Restricts free kept tables later := by
  intro scope other rows pair
  obtain ⟨table, whole, found, wholeFound, selects⟩ := restricts pair
  obtain ⟨added, computed, laterFound⟩ := grows wholeFound
  have nonempty := (formed wholeFound).2
  refine ⟨table, _, found, laterFound, ?_⟩
  rw [pair.rows_extend nonempty]
  refine selects.behind nonempty (fun column listed => (computed column listed).measure)
    fun column listed known => ?_
  obtain ⟨before, beforeFound⟩ := Option.isSome_iff_exists.mp (Table.find?_isSome.mpr known)
  have named := Table.name_of_find? beforeFound
  have grouping : ¬before.header.isMeasure = true := by
    intro measure
    have absent := stored found (Table.mem_of_find? beforeFound) measure
    have inMemory := (computed column listed).inMemory
    unfold isInMemory at absent inMemory
    rw [sameArena] at inMemory
    rw [named, inMemory] at absent
    cases absent
  have grouped : before.name ∈ table.groupingNames := List.mem_map_of_mem
    (List.mem_filter.mpr ⟨Table.mem_of_find? beforeFound, by simpa using grouping⟩)
  rw [named, selects.groupingNames_eq] at grouped
  exact whole.groupingNames_subset grouped

theorem OwnReferences.whole_grows (references : plan.OwnReferences free query tables wholes)
    (formed : wholes.Formed) {later : ScopeTables} (grows : free.Grows wholes later) :
    plan.OwnReferences free query tables later := by
  obtain ⟨table, whole, found, wholeFound, keeps⟩ := references
  obtain ⟨added, computed, laterFound⟩ := grows wholeFound
  refine ⟨table, _, found, laterFound, ?_⟩
  unfold KeepsReferences
  rw [Table.points_extend (formed wholeFound).2 fun column listed => (computed column listed).measure]
  exact keeps

/-- Measures in memory keep the rows together. -/
theorem Restricts.evaluate (restricts : plan.Restricts free kept tables wholes)
    (freed : plan.FreedBy free query) (tablesFormed : tables.Formed) (formed : wholes.Formed)
    (tablesStored : plan.Stored tables) (stored : free.Stored wholes)
    (references : plan.OwnReferences free query tables wholes) {final wholeFinal : ScopeTables}
    (ran : plan.evaluate tables = .ok final) (wholeRan : free.evaluate wholes = .ok wholeFinal) :
    plan.Restricts free kept final wholeFinal ∧ wholeFinal.Formed := by
  obtain ⟨order, listed, ran⟩ := freed.built.evaluate_eq_ok ran
  obtain ⟨otherOrder, otherListed, wholeRan⟩ := freed.otherBuilt.evaluate_eq_ok wholeRan
  obtain ⟨settled, finalFormed, grows⟩ := stored.settled.evaluateNodes formed otherListed wholeRan
  exact ⟨(restricts.grows tablesStored freed.arena formed grows).evaluateNodes freed tablesFormed
    finalFormed settled (references.whole_grows formed grows) listed ran, finalFormed⟩

end Plan

end CubeQuery
