import CubeQuery.Proofs.Execution.Recursive
import CubeQuery.Proofs.Plan.Exactness

/-! A run over the layers of a plan, node by node. The invariant of the run is that every node so far
has added the column that the recursion over operands gives it, and that no other column is new. -/

namespace CubeQuery

open Steps

/-! ### Tables of scopes -/

namespace ScopeTables

theorem get_eq_ok {tables : ScopeTables} {key : ScopeKey} {table : Table} :
    tables.get key = .ok table ↔ tables.lookup key = some table := by
  unfold ScopeTables.get
  cases tables.lookup key <;> simp

theorem keys_set (tables : ScopeTables) (key : ScopeKey) (table : Table) :
    (tables.set key table).map Prod.fst = tables.map Prod.fst := by
  unfold ScopeTables.set
  rw [List.map_map]
  refine List.map_congr_left fun entry _ => ?_
  simp only [Function.comp_apply]
  split
  · next same => exact same.symm
  · rfl

theorem lookup_set_self {tables : ScopeTables} {key : ScopeKey} {old : Table}
    (known : tables.lookup key = some old) (table : Table) :
    (tables.set key table).lookup key = some table := by
  unfold ScopeTables.set
  induction tables with
  | nil => cases known
  | cons entry rest ih =>
    by_cases same : entry.1 = key
    · simp [same]
    · rw [List.lookup_cons, beq_eq_false_iff_ne.mpr (Ne.symm same)] at known
      rw [List.map_cons, if_neg same, List.lookup_cons, beq_eq_false_iff_ne.mpr (Ne.symm same)]
      exact ih known

theorem lookup_set_other {tables : ScopeTables} {key other : ScopeKey} (different : other ≠ key)
    (table : Table) : (tables.set key table).lookup other = tables.lookup other := by
  unfold ScopeTables.set
  induction tables with
  | nil => rfl
  | cons entry rest ih =>
    by_cases same : entry.1 = key
    · rw [List.map_cons, if_pos same, List.lookup_cons, List.lookup_cons, same,
        beq_eq_false_iff_ne.mpr different]
      exact ih
    · rw [List.map_cons, if_neg same, List.lookup_cons, List.lookup_cons]
      cases other == entry.1
      · exact ih
      · rfl

end ScopeTables

namespace Plan

/-! ### Tables that fit a plan -/

/-- A table as a scope asks the database for it: the grouping columns of the scope, a column for each
of its database measures, and none yet for its measures in memory. -/
structure FitsScope (plan : Plan) (scope : Scope) (table : Table) : Prop where
  formed : table.checkColumns = .ok ()
  grouping : ∀ name, name ∈ table.groupingNames ↔ name ∈ scope.groupingNames
  stored : ∀ measures, plan.databaseMeasures scope.key = .ok measures →
    ∀ measure ∈ measures, measure.label ∈ table.names
  new : ∀ node ∈ plan.graph.nodes, node.scope = scope.key → plan.isInMemory node = true →
    node.measure ∉ table.names

def Fits (plan : Plan) (tables : ScopeTables) : Prop :=
  ∀ scope, plan.Involves scope →
    ∃ table, tables.lookup scope.key = some table ∧ plan.FitsScope scope table

variable {plan : Plan} {query : Query}

/-! ### The invariant -/

/-- A column that was computed as the recursion says. -/
structure ComputedColumn (plan : Plan) (before : ScopeTables) (key : ScopeKey) (table : Table)
    (column : Column) : Prop where
  header : column.header = .measure column.name (inferredType column.values)
  length : column.values.length = table.rowCount
  computed : plan.Computes before key column.name column.values

/-- The tables after the nodes `done`: behind the columns of each, one for each node of its scope. -/
structure Evaluated (plan : Plan) (before : ScopeTables) (done : List PlanNode) (now : ScopeTables) :
    Prop where
  keys : now.map Prod.fst = before.map Prod.fst
  extended : ∀ {key table}, before.lookup key = some table → ∃ added,
    now.lookup key = some (table.extend added) ∧
      added.map Column.name = (done.filter fun node => node.scope = key).map PlanNode.measure ∧
      ∀ column ∈ added, plan.ComputedColumn before key table column

theorem evaluated_nil (plan : Plan) (tables : ScopeTables) : plan.Evaluated tables [] tables where
  keys := rfl
  extended := fun {key table} known => ⟨[], by rw [Table.extend_nil, known], rfl, by simp⟩

theorem FitsScope.nonempty (built : plan.WellBuilt query) {scope : Scope} {table : Table}
    (fits : plan.FitsScope scope table) : table.columns ≠ [] := by
  obtain ⟨measures, measures_eq, nonempty, -⟩ := built.databaseMeasures_spec scope.key
  obtain ⟨measure, listed⟩ := List.exists_mem_of_ne_nil measures nonempty
  intro empty
  have named := fits.stored measures measures_eq measure listed
  unfold Table.names at named
  rw [empty] at named
  exact absurd named List.not_mem_nil

/-- The table of an involved scope during a run. -/
structure Current (plan : Plan) (before : ScopeTables) (done : List PlanNode) (scope : Scope)
    (table : Table) (added : List Column) : Prop where
  found : before.lookup scope.key = some table
  fits : plan.FitsScope scope table
  nonempty : table.columns ≠ []
  names : added.map Column.name = (done.filter fun node => node.scope = scope.key).map PlanNode.measure
  computed : ∀ column ∈ added, plan.ComputedColumn before scope.key table column

theorem Current.measures {before : ScopeTables} {done : List PlanNode} {scope : Scope} {table : Table}
    {added : List Column} (current : plan.Current before done scope table added) :
    ∀ column ∈ added, column.header.isMeasure = true := by
  intro column listed
  rw [(current.computed column listed).header]
  rfl

theorem Evaluated.current (built : plan.WellBuilt query) {before now : ScopeTables}
    {done : List PlanNode} (evaluated : plan.Evaluated before done now) (fits : plan.Fits before)
    {scope : Scope} (involved : plan.Involves scope) :
    ∃ table added, now.lookup scope.key = some (table.extend added) ∧
      plan.Current before done scope table added := by
  obtain ⟨table, found, tableFits⟩ := fits scope involved
  obtain ⟨added, nowFound, names, computed⟩ := evaluated.extended found
  exact ⟨table, added, nowFound, found, tableFits, tableFits.nonempty built, names, computed⟩

/-- An operand that is stored or done has its column. -/
theorem Current.operand (built : plan.WellBuilt query) {before : ScopeTables} {done : List PlanNode}
    {scope : Scope} {table : Table} {added : List Column}
    (current : plan.Current before done scope table added) {label : String}
    (listed : ⟨scope.key, label⟩ ∈ plan.graph.nodes)
    (ready : plan.isInMemory ⟨scope.key, label⟩ = true → ⟨scope.key, label⟩ ∈ done) :
    ∃ column, (table.extend added).find? label = some column ∧
      column.values.length = table.rowCount ∧ plan.Computes before scope.key label column.values := by
  obtain ⟨measure, measureFound⟩ := built.find?_measure listed
  cases primitive : measure.isPrimitive with
  | true =>
    obtain ⟨measures, measures_eq, -, stored⟩ := built.databaseMeasures_spec scope.key
    have named := current.fits.stored measures measures_eq measure
      (stored _ listed rfl measure measureFound primitive)
    rw [Arena.label_of_find? measureFound] at named
    obtain ⟨column, columnFound⟩ := Option.isSome_iff_exists.mp (Table.find?_isSome.mpr named)
    have formed := Table.checkColumns_eq_ok.mp current.fits.formed
    exact ⟨column, Table.find?_extend_old columnFound,
      formed.lengths column (Table.mem_of_find? columnFound),
      .stored measureFound primitive current.found columnFound⟩
  | false =>
    have inMemory : plan.isInMemory ⟨scope.key, label⟩ = true := by
      rw [isInMemory_eq measureFound, primitive]
      rfl
    have absent := Table.find?_eq_none.mpr (current.fits.new _ listed rfl inMemory)
    have present : label ∈ added.map Column.name := by
      rw [current.names]
      exact List.mem_map.mpr ⟨⟨scope.key, label⟩,
        List.mem_filter.mpr ⟨ready inMemory, decide_eq_true rfl⟩, rfl⟩
    obtain ⟨column, columnFound⟩ := Option.isSome_iff_exists.mp
      (Table.find?_isSome.mpr (by
        rw [Table.names_extend]
        exact List.mem_append_right table.names present))
    have inAdded := columnFound
    rw [Table.find?_extend_new absent] at inAdded
    obtain rfl := Table.name_of_find? columnFound
    have computed := current.computed column (List.mem_of_find?_eq_some inAdded)
    exact ⟨column, columnFound, computed.length, computed.computed⟩

/-! ### One node -/

/-- A node can be evaluated when its dependencies in memory are done. -/
structure Ready (plan : Plan) (done : List PlanNode) (node : PlanNode) : Prop where
  listed : node ∈ plan.graph.nodes
  inMemory : plan.isInMemory node = true
  dependencies : ∀ dependency ∈ plan.graph.dependencies node,
    plan.isInMemory dependency = true → dependency ∈ done

/-- What the evaluation of a node comes to: the values of the recursion or a fault of its measure. -/
def NodeOutcome (plan : Plan) (before : ScopeTables) (node : PlanNode) (rowCount : Nat)
    (outcome : Except QueryError (List Value)) : Prop :=
  (∃ values, outcome = .ok values ∧ values.length = rowCount ∧
    plan.Computes before node.scope node.measure values) ∨
  ∃ error scope measure, outcome = .error error ∧
    plan.discovery.scopes.lookup node.scope = some scope ∧
    plan.arena.find? node.measure = some measure ∧ measure.Fault scope error

theorem WellBuilt.operand (built : plan.WellBuilt query) {before : ScopeTables}
    {done : List PlanNode} {node : PlanNode} (ready : plan.Ready done node) {scope : Scope}
    {table : Table} {added : List Column} (current : plan.Current before done scope table added)
    {label : String} (dependent : ⟨scope.key, label⟩ ∈ plan.graph.dependencies node) :
    ∃ column, (table.extend added).column label = .ok column ∧
      column.values.length = table.rowCount ∧ plan.Computes before scope.key label column.values := by
  obtain ⟨column, found, rest⟩ := current.operand built
    (built.planned node ready.listed _ dependent) (ready.dependencies _ dependent)
  exact ⟨column, Table.column_eq_ok.mpr found, rest⟩

theorem nodeOutcome_binary (built : plan.WellBuilt query) {before : ScopeTables}
    {done : List PlanNode} {node : PlanNode} (ready : plan.Ready done node) {scope : Scope}
    {table : Table} {added : List Column} (current : plan.Current before done scope table added)
    (here : scope.key = node.scope) {label : String} {operator : BinaryOperator} {left right : Measure}
    (measureFound : plan.arena.find? node.measure = some (.binary label operator left right)) :
    plan.NodeOutcome before node table.rowCount
      (operator.column left.label right.label (table.extend added)) := by
  obtain ⟨leftDependent, rightDependent⟩ := built.binary_dependencies ready.listed measureFound
  rw [← here] at leftDependent rightDependent
  obtain ⟨lefts, leftFound, leftLength, leftComputed⟩ := built.operand ready current leftDependent
  obtain ⟨rights, rightFound, rightLength, rightComputed⟩ :=
    built.operand ready current rightDependent
  refine .inl ⟨List.zipWith operator.apply lefts.values rights.values, ?_, ?_, ?_⟩
  · unfold BinaryOperator.column
    rw [leftFound, rightFound]
    rfl
  · rw [List.length_zipWith, leftLength, rightLength, Nat.min_self]
  · rw [← here]
    exact .binary measureFound leftComputed rightComputed

theorem nodeOutcome_comparison (built : plan.WellBuilt query) {before : ScopeTables}
    {done : List PlanNode} {node : PlanNode} (ready : plan.Ready done node) {scope reference : Scope}
    {table referenceTable : Table} {added referenceAdded : List Column}
    (current : plan.Current before done scope table added)
    (referenceCurrent : plan.Current before done reference referenceTable referenceAdded)
    (scopeFound : plan.discovery.scopes.lookup node.scope = some scope)
    {label : String} {method : ComparisonMethod} {base : Measure}
    {positions : SortedMap Field String} {period : Option Period}
    {columnSet : Option ColumnSetKey} {ancestors : Option (List Field)}
    (measureFound : plan.arena.find? node.measure =
      some (.comparison label method base positions period columnSet ancestors))
    (referenceFound : scope.forComparison label period columnSet ancestors = .ok reference)
    (own : ⟨scope.key, base.label⟩ ∈ plan.graph.dependencies node)
    (other : ⟨reference.key, base.label⟩ ∈ plan.graph.dependencies node) :
    plan.NodeOutcome before node table.rowCount
      (method.column base.label (table.extend added) (referenceTable.extend referenceAdded)
        (Shifter.ofComparison scope label positions period columnSet ancestors)) := by
  have here := built.keyed scopeFound
  have names_eq : (table.extend added).groupingNames = table.groupingNames :=
    Table.groupingNames_extend current.measures
  have included : table.groupingNames ⊆ referenceTable.names := by
    intro name listed
    refine referenceTable.groupingNames_subset ((referenceCurrent.fits.grouping name).mpr ?_)
    rw [Scope.groupingNames_of_forComparison referenceFound]
    exact (current.fits.grouping name).mp listed
  obtain ⟨grouping, groupingFound⟩ := Table.exists_columnsNamed included
  obtain ⟨values, valuesFound, -, computed⟩ := built.operand ready current own
  obtain ⟨referenceValues, referenceValuesFound, -, referenceComputed⟩ :=
    built.operand ready referenceCurrent other
  unfold ComparisonMethod.column
  rw [names_eq, Table.columnsNamed_extend groupingFound, valuesFound, referenceValuesFound]
  cases shifterFound : Shifter.ofComparison scope label positions period columnSet ancestors
      table.groupingNames with
  | error error =>
    exact .inr ⟨error, scope, _, rfl, scopeFound, measureFound,
      Shifter.ofComparison_fault referenceFound current.fits.grouping shifterFound⟩
  | ok shifter =>
    refine .inl ⟨_, rfl, ?_, ?_⟩
    · rw [List.length_map, Table.rowIndices_extend current.nonempty]
      exact List.length_range
    · have rowwise := Computes.comparison measureFound scopeFound referenceFound
        (here ▸ current.found) referenceCurrent.found groupingFound shifterFound (here ▸ computed)
        referenceComputed
      rw [Table.rowIndices_extend current.nonempty]
      simp only [Table.point_extend current.measures, Shifter.referenceValue,
        Table.lastRowAt?_extend referenceCurrent.nonempty]
      exact rowwise

theorem elementAt_eq_vectorElement (components : List Column) (row : Nat) :
    vectorElement components row = elementAt (components.map Column.values) row := by
  cases components with
  | nil => rfl
  | cons first rest =>
    cases rest with
    | nil => rfl
    | cons second others =>
      simp only [vectorElement, elementAt, Table.cells, List.map_cons, List.map_map]
      rfl

theorem nodeOutcome_vector (built : plan.WellBuilt query) {before : ScopeTables}
    {done : List PlanNode} {node : PlanNode} (ready : plan.Ready done node) {scope : Scope}
    {table vectors : Table} {added vectorsAdded : List Column}
    (current : plan.Current before done scope table added) {label : String}
    {fields : List (Field × String)} {axis : Field} {transformer : Option String}
    (vectorsCurrent : plan.Current before done (scope.forVector axis) vectors vectorsAdded)
    (scopeFound : plan.discovery.scopes.lookup node.scope = some scope)
    (measureFound : plan.arena.find? node.measure = some (.vector label fields axis transformer))
    (nonempty : fields ≠ [])
    (operands : ∀ component ∈ Measure.components label fields,
      ⟨(scope.forVector axis).key, component.label⟩ ∈ plan.graph.dependencies node) :
    plan.NodeOutcome before node table.rowCount
      (vectorColumn ((Measure.components label fields).map Measure.label) axis.name transformer
        (table.extend added) (vectors.extend vectorsAdded)) := by
  have here := built.keyed scopeFound
  have names_eq : (table.extend added).groupingNames = table.groupingNames :=
    Table.groupingNames_extend current.measures
  obtain ⟨scopeNames, axisName⟩ := scope.groupingNames_forVector axis
  have inVectors {name : String} (listed : name ∈ (scope.forVector axis).groupingNames) :
      name ∈ vectors.names :=
    vectors.groupingNames_subset ((vectorsCurrent.fits.grouping name).mpr listed)
  have included : table.groupingNames ⊆ vectors.names := fun name listed =>
    inVectors (scopeNames ((current.fits.grouping name).mp listed))
  obtain ⟨grouping, groupingFound⟩ := Table.exists_columnsNamed included
  obtain ⟨axisColumn, axisFound⟩ := Option.isSome_iff_exists.mp
    (Table.find?_isSome.mpr (inVectors axisName))
  let valuesOf (label : String) : List Value :=
    ((vectors.extend vectorsAdded).find? label).elim [] Column.values
  have each : ∀ component ∈ Measure.components label fields, ∃ column,
      (vectors.extend vectorsAdded).find? component.label = some column ∧
        plan.Computes before (scope.forVector axis).key component.label column.values := by
    intro component member
    obtain ⟨column, found, -, computed⟩ := built.operand ready vectorsCurrent (operands component member)
    exact ⟨column, Table.column_eq_ok.mp found, computed⟩
  have named : (Measure.components label fields).map Measure.label ⊆
      (vectors.extend vectorsAdded).names := by
    intro name listed
    obtain ⟨component, member, rfl⟩ := List.mem_map.mp listed
    obtain ⟨column, found, -⟩ := each component member
    exact Table.find?_isSome.mp (by rw [found]; rfl)
  obtain ⟨columns, columnsFound⟩ := Table.exists_columnsNamed named
  have columns_eq : columns.map Column.values =
      (Measure.components label fields).map fun component => valuesOf component.label := by
    have found := List.forall₂_map_left_iff.mp (Table.columnsNamed_eq_ok.mp columnsFound)
    clear columnsFound each operands
    generalize Measure.components label fields = components at found ⊢
    induction found with
    | nil => rfl
    | cons first _ ih =>
      rw [List.map_cons, List.map_cons, ih]
      simp only [valuesOf, first, Option.elim_some]
  have computed : ∀ component ∈ Measure.components label fields,
      plan.Computes before (scope.forVector axis).key component.label (valuesOf component.label) := by
    intro component member
    obtain ⟨column, found, computed⟩ := each component member
    simp only [valuesOf, found, Option.elim_some]
    exact computed
  unfold vectorColumn
  rw [names_eq, Table.columnsNamed_extend groupingFound,
    Table.column_eq_ok.mpr (Table.find?_extend_old axisFound), columnsFound]
  refine .inl ⟨_, rfl, ?_, ?_⟩
  · rw [List.length_map, Table.rowIndices_extend current.nonempty]
    exact List.length_range
  · have collected := Computes.vector measureFound nonempty scopeFound (here ▸ current.found)
      vectorsCurrent.found groupingFound axisFound computed
    rw [Table.rowIndices_extend current.nonempty]
    simp only [Table.point_extend current.measures, vectorRows,
      Table.rowIndices_extend vectorsCurrent.nonempty]
    rw [show vectorElement columns = elementAt (columns.map Column.values) from
      funext (elementAt_eq_vectorElement columns), columns_eq]
    exact collected

theorem Evaluated.nodeColumn (built : plan.WellBuilt query) {before now : ScopeTables}
    {done : List PlanNode} (evaluated : plan.Evaluated before done now) (fits : plan.Fits before)
    {node : PlanNode} (ready : plan.Ready done node) :
    ∃ scope table added, scope.key = node.scope ∧ now.lookup node.scope = some (table.extend added) ∧
      plan.Current before done scope table added ∧
      plan.NodeOutcome before node table.rowCount (plan.nodeColumn now node) := by
  obtain ⟨dependencies, reads, -⟩ := built.reads node ready.listed
  obtain ⟨scope, measure, scopeFound, measureFound, read⟩ := reads
  have here := built.keyed scopeFound
  obtain ⟨table, added, nowFound, current⟩ :=
    evaluated.current built fits (involves_of_lookup scopeFound)
  rw [here] at nowFound
  refine ⟨scope, table, added, here, nowFound, current, ?_⟩
  unfold Plan.nodeColumn
  rw [Arena.get_eq_ok.mpr measureFound, ok_bind, ScopeTables.get_eq_ok.mpr nowFound, ok_bind]
  have inMemory := ready.inMemory
  rw [isInMemory_eq measureFound] at inMemory
  cases measure with
  | binary label operator left right =>
    exact nodeOutcome_binary built ready current here measureFound
  | comparison label method base positions period columnSet ancestors =>
    obtain ⟨reference, referenceFound, reference_eq, own, other⟩ :=
      built.referenceScope_eq ready.listed scopeFound measureFound
    obtain ⟨referenceTable, referenceAdded, referenceNow, referenceCurrent⟩ :=
      evaluated.current built fits
        (built.involves_reference ready.listed scopeFound measureFound referenceFound)
    have scopeRead : plan.scope node.scope = .ok scope := Discovery.scope_eq_ok.mpr scopeFound
    simp only
    rw [scopeRead, ok_bind, reference_eq, ScopeTables.get_eq_ok.mpr referenceNow, ok_bind]
    exact nodeOutcome_comparison built ready current referenceCurrent scopeFound measureFound
      referenceFound (here ▸ own) other
  | vector label fields axis transformer =>
    simp only
    cases fields with
    | nil =>
      rw [built.vectorScope_nil ready.listed measureFound]
      refine .inr ⟨_, scope, _, rfl, scopeFound, measureFound, ?_⟩
      rw [← Arena.label_of_find? measureFound]
      exact .noComponents
    | cons field others =>
      obtain ⟨vectorScope_eq, operands⟩ :=
        built.vectorScope_eq ready.listed scopeFound measureFound (List.cons_ne_nil _ _)
      obtain ⟨vectors, vectorsAdded, vectorsNow, vectorsCurrent⟩ :=
        evaluated.current built fits
          (built.involves_vectors ready.listed scopeFound measureFound (List.cons_ne_nil _ _))
      rw [vectorScope_eq, ok_bind, ScopeTables.get_eq_ok.mpr vectorsNow, ok_bind]
      exact nodeOutcome_vector built ready current vectorsCurrent scopeFound measureFound
        (List.cons_ne_nil _ _) operands
  | aggregated | expression | count => cases inMemory
  | ref label =>
    exact absurd rfl (built.defines _ (List.mem_of_find?_eq_some measureFound) label)

/-- A fault of a node in memory is the error of the run. -/
def NodeFault (plan : Plan) (nodes : List PlanNode) (error : QueryError) : Prop :=
  ∃ node ∈ nodes, ∃ scope measure, plan.discovery.scopes.lookup node.scope = some scope ∧
    plan.arena.find? node.measure = some measure ∧ measure.Fault scope error

/-- The step of a run: one more node has its column, unless its measure is at fault. -/
theorem Evaluated.evaluateNode (built : plan.WellBuilt query) {before now : ScopeTables}
    {done : List PlanNode} (evaluated : plan.Evaluated before done now) (fits : plan.Fits before)
    {node : PlanNode} (ready : plan.Ready done node) (new : node ∉ done) :
    (∃ next, plan.evaluateNode now node = .ok next ∧ plan.Evaluated before (done ++ [node]) next) ∨
      ∃ error, plan.evaluateNode now node = .error error ∧ plan.NodeFault [node] error := by
  obtain ⟨scope, table, added, here, nowFound, current, outcome⟩ :=
    evaluated.nodeColumn built fits ready
  rcases outcome with ⟨values, values_eq, length, computed⟩ |
    ⟨error, faulty, measure, error_eq, scopeFound, measureFound, fault⟩
  · let column : Column := ⟨.measure node.measure (inferredType values), values⟩
    have fresh : column.name ∉ (table.extend added).names := by
      rw [Table.names_extend, current.names]
      intro listed
      rcases List.mem_append.mp listed with stored | again
      · exact current.fits.new node ready.listed here.symm ready.inMemory stored
      · obtain ⟨other, member, same⟩ := List.mem_map.mp again
        obtain ⟨otherDone, otherScope⟩ := List.mem_filter.mp member
        have other_eq : other = node := by
          cases other
          cases node
          simp_all [column, Column.name, Header.measure]
        exact new (other_eq ▸ otherDone)
    have extended : (table.extend added).addColumn column =
        .ok (table.extend (added ++ [column])) := by
      rw [Table.addColumn_eq_ok fresh
        (by rw [Table.rowCount_extend current.nonempty]; exact length), Table.extend_extend]
    refine .inl ⟨now.set node.scope (table.extend (added ++ [column])), ?_, ?_, ?_⟩
    · unfold Plan.evaluateNode
      rw [values_eq, ok_bind, ScopeTables.get_eq_ok.mpr nowFound, ok_bind, extended]
      rfl
    · rw [ScopeTables.keys_set, evaluated.keys]
    · intro key other otherFound
      by_cases same : key = node.scope
      · rw [same] at otherFound ⊢
        rw [← here] at otherFound
        obtain rfl := Option.some.inj (current.found.symm.trans otherFound)
        refine ⟨added ++ [column], ScopeTables.lookup_set_self nowFound _, ?_, ?_⟩
        · rw [List.map_append, current.names, List.filter_append, List.map_append, here]
          simp [column, Column.name, Header.measure]
        · intro item listed
          rcases List.mem_append.mp listed with old | last
          · exact here ▸ current.computed item old
          · rw [List.mem_singleton.mp last]
            exact ⟨rfl, length, computed⟩
      · obtain ⟨otherAdded, otherNow, names, otherComputed⟩ := evaluated.extended otherFound
        refine ⟨otherAdded, ?_, ?_, otherComputed⟩
        · rw [ScopeTables.lookup_set_other same]
          exact otherNow
        · rw [names, List.filter_append]
          simp [Ne.symm same]
  · refine .inr ⟨error, ?_, node, List.mem_singleton_self _, faulty, measure, scopeFound,
      measureFound, fault⟩
    unfold Plan.evaluateNode
    rw [error_eq]
    rfl

/-- The run: the induction is on the nodes that are left. -/
theorem Evaluated.evaluateNodes (built : plan.WellBuilt query) {before now : ScopeTables}
    {done order : List PlanNode} (evaluated : plan.Evaluated before done now) (fits : plan.Fits before)
    (distinct : (done ++ order).Nodup)
    (ready : ∀ front node back, order = front ++ node :: back → plan.Ready (done ++ front) node) :
    (∃ final, plan.evaluateNodes order now = .ok final ∧
        plan.Evaluated before (done ++ order) final) ∨
      ∃ error, plan.evaluateNodes order now = .error error ∧ plan.NodeFault order error := by
  induction order generalizing done now with
  | nil => exact .inl ⟨now, rfl, by rwa [List.append_nil]⟩
  | cons node rest ih =>
    have first : plan.Ready done node := by
      have := ready [] node rest rfl
      rwa [List.append_nil] at this
    have new : node ∉ done := fun again =>
      (List.nodup_append'.mp distinct).2.2 again List.mem_cons_self
    unfold Plan.evaluateNodes
    rcases evaluated.evaluateNode built fits first new with ⟨next, step, nextEvaluated⟩ |
      ⟨error, failed, faulty, listed, fault⟩
    · rw [step, ok_bind]
      have moved : done ++ node :: rest = (done ++ [node]) ++ rest := by simp
      rw [moved] at distinct ⊢
      rcases ih nextEvaluated distinct (by
        intro front other back split
        have := ready (node :: front) other back (by rw [split]; rfl)
        rwa [show done ++ node :: front = (done ++ [node]) ++ front by simp] at this) with
        finished | ⟨error, failed, faulty, listed, fault⟩
      · exact .inl finished
      · exact .inr ⟨error, failed, faulty, List.mem_cons_of_mem _ listed, fault⟩
    · rw [failed]
      rw [List.mem_singleton.mp listed] at fault
      exact .inr ⟨error, rfl, node, List.mem_cons_self, fault⟩

/-- Layered evaluation is recursive evaluation: on tables that fit the plan, a run either fails by the
fault of a measure in memory or adds to each table exactly one column for each such measure of its
scope, and the column holds the values, and no others, that the recursion over operands gives. -/
theorem evaluate_eq_recursive (query : Query) (plan : Plan) (tables : ScopeTables)
    (built : build query = .ok plan) (fits : plan.Fits tables) :
    (∃ error, plan.evaluate tables = .error error ∧
        plan.NodeFault (plan.graph.nodes.filter plan.isInMemory) error) ∨
      ∃ evaluated, plan.evaluate tables = .ok evaluated ∧
        evaluated.map Prod.fst = tables.map Prod.fst ∧
        ∀ key table, tables.lookup key = some table → ∃ added,
          evaluated.lookup key = some (table.extend added) ∧
          (added.map Column.name).Perm
            ((plan.graph.nodes.filter fun node => node.scope = key ∧ plan.isInMemory node = true).map
              PlanNode.measure) ∧
          ∀ column ∈ added, column.header = .measure column.name (inferredType column.values) ∧
            ∀ values, plan.Computes tables key column.name values ↔ values = column.values := by
  have wellBuilt := wellBuilt_of_build built
  obtain ⟨layers, layered, distinct, all, ordered⟩ := wellBuilt.inMemoryLayers_spec
  have ready : ∀ front node back, layers.flatten = front ++ node :: back →
      plan.Ready ([] ++ front) node := by
    intro front node back split
    have listed : node ∈ layers.flatten := by
      rw [split]
      exact List.mem_append_right _ List.mem_cons_self
    obtain ⟨planned, inMemory⟩ := (all node).mp listed
    exact ⟨planned, inMemory, ordered front node back split⟩
  have run_eq : plan.evaluate tables = plan.evaluateNodes layers.flatten tables := by
    unfold evaluate
    rw [layered, ok_bind]
  rw [run_eq]
  rcases (plan.evaluated_nil tables).evaluateNodes wellBuilt fits distinct ready with
    ⟨final, ran, evaluated⟩ | ⟨error, failed, node, listed, fault⟩
  · refine .inr ⟨final, ran, evaluated.keys, fun key table found => ?_⟩
    obtain ⟨added, nowFound, names, computed⟩ := evaluated.extended found
    refine ⟨added, nowFound, ?_, fun column listed => ?_⟩
    · rw [names, List.nil_append]
      refine List.Perm.map _ ((List.perm_ext_iff_of_nodup (distinct.filter _)
        (wellBuilt.wellFormed.distinct.filter _)).mpr fun node => ?_)
      rw [List.mem_filter, List.mem_filter, all, decide_eq_true_eq, decide_eq_true_eq]
      tauto
    · obtain ⟨header, -, recursive⟩ := computed column listed
      refine ⟨header, fun values => ⟨fun again => again.unique recursive, fun same => ?_⟩⟩
      rw [same]
      exact recursive
  · exact .inl ⟨error, failed, node, List.mem_filter.mpr ((all node).mp listed), fault⟩

/-! ### A mean and a vector, evaluated -/

def cityPrices : Table :=
  ⟨[⟨.grouping "city" .string, [.str "Lima", .str "Oslo"]⟩,
    ⟨.measure "total" .double, [.int 12, .int 9]⟩, ⟨.measure "sales" .long, [.int 4, .int 3]⟩]⟩

def pricedCities : Column := ⟨.grouping "city" .string, [.str "Lima", .str "Oslo", .str "Lima"]⟩

def pricedMonths : Column := ⟨.grouping "month" .long, [.int 2, .int 1, .int 1]⟩

def partColumn : Column := ⟨.measure "__monthly_0__" .double, [.int 7, .int 9, .int 5]⟩

/-- The months of a city stand apart, and not in their order. -/
def monthPrices : Table := ⟨[pricedCities, pricedMonths, partColumn]⟩

def averageColumn : Column := ⟨.measure "average" .double, [.float (.ofInt 3), .float (.ofInt 3)]⟩

def monthlyColumn : Column :=
  ⟨.measure "monthly" .unknown, [.list [.int 5, .int 7], .list [.int 9]]⟩

section Prices

variable {root months : Scope}

theorem pricesPlan_involves (split : root.forVector (.ofName "month") = months)
    (apart : months.key ≠ root.key) {scope : Scope} (involved : (pricesPlan root months).Involves scope) :
    scope = root ∨ scope = months := by
  have found {key : ScopeKey} {scope : Scope}
      (found : (pricesPlan root months).discovery.scopes.lookup key = some scope) :
      scope = root ∨ key = months.key ∧ scope = months := by
    simp only [pricesPlan, pricesDiscovery, List.lookup_cons, List.lookup_nil] at found
    split at found
    · exact .inl (Option.some.inj found).symm
    · split at found
      · next here => exact .inr ⟨beq_iff_eq.mp here, (Option.some.inj found).symm⟩
      · cases found
  rcases involved with ⟨key, here⟩ | ⟨node, listed, dependencies, reads, label, member⟩
  · exact (found here).imp_right And.right
  · obtain ⟨own, measure, here, known, read⟩ := reads
    have reader : own = root ∨ (own, node.measure) = (months, "__monthly_0__") := by
      refine (found here).imp_right fun same => ?_
      obtain ⟨key_eq, own_eq⟩ := same
      simp only [pricesPlan, Plan.graph, pricesDiscovery, List.mem_cons, List.not_mem_nil, or_false] at listed
      rcases listed with rfl | rfl | rfl | rfl | rfl
      iterate 4 exact absurd key_eq.symm apart
      rw [own_eq]
    have reads : pricesArena.Reads (own, node.measure) (scope, label) :=
      ⟨measure, dependencies, known, read, member⟩
    exact (reads_of_prices split reads reader).imp_right (congrArg Prod.fst)

theorem pricesPlan_databaseMeasures (apart : months.key ≠ root.key) :
    (pricesPlan root months).databaseMeasures root.key =
        .ok [.aggregated "total" (.ofName "price") "sum" none, .count "sales"] ∧
      (pricesPlan root months).databaseMeasures months.key =
        .ok [.aggregated "__monthly_0__" (.ofName "price") "sum" none] := by
  unfold pricesPlan databaseMeasures Plan.graph pricesDiscovery
  generalize months.key = other, root.key = key at apart ⊢
  constructor
  · simp [apart, pricesArena]
    rfl
  · simp [apart.symm, pricesArena]
    rfl

/-- The tables of the two scopes. -/
def pricesTables (root months : Scope) : ScopeTables :=
  [(root.key, cityPrices), (months.key, monthPrices)]

theorem lookup_pricesTables (apart : months.key ≠ root.key) :
    (pricesTables root months).lookup root.key = some cityPrices ∧
      (pricesTables root months).lookup months.key = some monthPrices := by
  have other : (months.key == root.key) = false := beq_eq_false_iff_ne.mpr apart
  simp [pricesTables, List.lookup_cons, other]

theorem prices_fit (split : root.forVector (.ofName "month") = months) (apart : months.key ≠ root.key)
    (grouped : root.groupingNames = ["city"]) (parts : months.groupingNames = ["city", "month"]) :
    (pricesPlan root months).Fits (pricesTables root months) := by
  obtain ⟨here, there⟩ := lookup_pricesTables apart
  obtain ⟨asked, partsAsked⟩ := pricesPlan_databaseMeasures apart
  intro scope involved
  rcases pricesPlan_involves split apart involved with rfl | rfl
  · refine ⟨cityPrices, here, rfl, fun name => by rw [grouped]; rfl, ?_, ?_⟩
    · intro measures measures_eq measure listed
      rw [asked] at measures_eq
      obtain rfl := Except.ok.inj measures_eq
      simp only [List.mem_cons, List.not_mem_nil, or_false] at listed
      rcases listed with rfl | rfl <;> decide
    · intro node listed own inMemory
      simp only [pricesPlan, Plan.graph, pricesDiscovery, List.mem_cons, List.not_mem_nil, or_false] at listed
      rcases listed with rfl | rfl | rfl | rfl | rfl
      · show "average" ∉ cityPrices.names
        decide
      · show "monthly" ∉ cityPrices.names
        decide
      · cases inMemory
      · cases inMemory
      · cases inMemory
  · refine ⟨monthPrices, there, rfl, fun name => by rw [parts]; rfl, ?_, ?_⟩
    · intro measures measures_eq measure listed
      rw [partsAsked] at measures_eq
      obtain rfl := Except.ok.inj measures_eq
      rw [List.mem_singleton.mp listed]
      decide
    · intro node listed own inMemory
      simp only [pricesPlan, Plan.graph, pricesDiscovery, List.mem_cons, List.not_mem_nil, or_false] at listed
      rcases listed with rfl | rfl | rfl | rfl | rfl
      iterate 4 exact absurd own.symm apart
      cases inMemory

theorem pricesPlan_inMemory (apart : months.key ≠ root.key) :
    ((pricesPlan root months).graph.nodes.filter fun node =>
        node.scope = root.key ∧ (pricesPlan root months).isInMemory node = true).map PlanNode.measure =
      ["average", "monthly"] ∧
    ((pricesPlan root months).graph.nodes.filter fun node =>
        node.scope = months.key ∧ (pricesPlan root months).isInMemory node = true).map PlanNode.measure =
      [] := by
  constructor <;>
    simp [pricesPlan, pricesDiscovery, Plan.graph, isInMemory, Arena.find?, pricesArena, Measure.label,
      Measure.isPrimitive, apart.symm]

/-- The rows of a city are read in the order of the months, not as they stand. -/
theorem monthPrices_rows :
    vectorRows monthPrices [pricedCities] pricedMonths [.str "Lima"] = [2, 0] ∧
      vectorRows monthPrices [pricedCities] pricedMonths [.str "Oslo"] = [1] := by
  have later : compare (pricedMonths.cell 0) (pricedMonths.cell 2) = .gt := by decide
  have lima : (monthPrices.rowIndices.filter fun row => Table.cells [pricedCities] row = [.str "Lima"]) =
    [0, 2] := by decide
  have oslo : (monthPrices.rowIndices.filter fun row => Table.cells [pricedCities] row = [.str "Oslo"]) =
    [1] := by decide
  simp [vectorRows, lima, oslo, List.mergeSort, List.MergeSort.Internal.splitInTwo, later]

theorem prices_computed (split : root.forVector (.ofName "month") = months)
    (apart : months.key ≠ root.key) :
    let plan := pricesPlan root months
    let tables := pricesTables root months
    plan.Computes tables root.key "average" averageColumn.values ∧
      plan.Computes tables root.key "monthly" monthlyColumn.values := by
  obtain ⟨here, there⟩ := lookup_pricesTables apart
  subst split
  intro plan tables
  constructor
  · have total : plan.Computes tables root.key "total" [.int 12, .int 9] := .stored rfl rfl here
      (rfl : cityPrices.find? "total" = some ⟨.measure "total" .double, [.int 12, .int 9]⟩)
    have sales : plan.Computes tables root.key "sales" [.int 4, .int 3] := .stored rfl rfl here
      (rfl : cityPrices.find? "sales" = some ⟨.measure "sales" .long, [.int 4, .int 3]⟩)
    have divided : averageColumn.values =
      List.zipWith BinaryOperator.divide.apply [.int 12, .int 9] [.int 4, .int 3] := by decide +kernel
    exact divided ▸ .binary rfl total sales
  · have measureFound : plan.arena.find? "monthly" =
      some (.vector "monthly" [(.ofName "price", "sum")] (.ofName "month") none) := rfl
    have scopeFound : plan.discovery.scopes.lookup root.key = some root := by
      simp [plan, pricesPlan, pricesDiscovery]
    have groupingFound : monthPrices.columnsNamed cityPrices.groupingNames = .ok [pricedCities] := rfl
    have axisFound : monthPrices.find? "month" = some pricedMonths := rfl
    let parts : String → List Value := fun _ => partColumn.values
    have computed : ∀ component ∈ Measure.components "monthly" [(.ofName "price", "sum")],
        plan.Computes tables (root.forVector (.ofName "month")).key component.label
          (parts component.label) := by
      intro component listed
      obtain rfl := List.mem_singleton.mp listed
      exact .stored rfl rfl there (rfl : monthPrices.find? "__monthly_0__" = some partColumn)
    have collected := Computes.vector measureFound (List.cons_ne_nil _ _) scopeFound here there
      groupingFound axisFound computed
    obtain ⟨lima, oslo⟩ := monthPrices_rows
    have rows : cityPrices.rowIndices = [0, 1] := rfl
    have first : cityPrices.point 0 = [.str "Lima"] := rfl
    have second : cityPrices.point 1 = [.str "Oslo"] := rfl
    generalize values_eq : List.map _ cityPrices.rowIndices = values at collected
    rw [rows, List.map_cons, List.map_cons, List.map_nil, first, second, lima, oslo] at values_eq
    have same : monthlyColumn.values = values := values_eq
    exact same ▸ collected

theorem pricesPlan_faultless {nodes : List PlanNode} {error : QueryError} :
    ¬(pricesPlan root months).NodeFault nodes error := by
  rintro ⟨node, -, scope, measure, -, known, fault⟩
  have member : measure ∈ pricesArena.measures := List.mem_of_find?_eq_some known
  simp only [pricesArena, List.mem_cons, List.not_mem_nil, or_false] at member
  rcases member with rfl | rfl | rfl | rfl | rfl <;> cases fault

theorem eq_of_computes {plan : Plan} {tables : ScopeTables} {key : ScopeKey} {column expected : Column}
    (computed : column.header = .measure column.name (inferredType column.values) ∧
      ∀ values, plan.Computes tables key column.name values ↔ values = column.values)
    (header : expected.header = .measure expected.name (inferredType expected.values))
    (computes : plan.Computes tables key expected.name expected.values)
    (named : column.name = expected.name) : column = expected := by
  obtain ⟨columnHeader, values⟩ := computed
  rw [named] at columnHeader values
  have values_eq := (values _).mp computes
  rw [← values_eq, ← header] at columnHeader
  cases column
  cases expected
  simp only at columnHeader values_eq
  rw [columnHeader, values_eq]

/-- Columns that are named for the measures in memory and hold what the recursion gives. -/
theorem prices_added {plan : Plan} {tables : ScopeTables} {key : ScopeKey} {added : List Column}
    (names : (added.map Column.name).Perm ["average", "monthly"])
    (computed : ∀ column ∈ added, column.header = .measure column.name (inferredType column.values) ∧
      ∀ values, plan.Computes tables key column.name values ↔ values = column.values)
    (average : plan.Computes tables key "average" averageColumn.values)
    (monthly : plan.Computes tables key "monthly" monthlyColumn.values) :
    added.Perm [averageColumn, monthlyColumn] := by
  let columnOf (name : String) : Column := if name = "average" then averageColumn else monthlyColumn
  have named : ∀ column ∈ added, columnOf column.name = column := by
    intro column listed
    have known := names.subset (List.mem_map_of_mem listed)
    simp only [List.mem_cons, List.not_mem_nil, or_false] at known
    rcases known with here | here
    · have same : column = averageColumn := eq_of_computes (computed column listed) rfl average here
      rw [same]
      rfl
    · have same : column = monthlyColumn := eq_of_computes (computed column listed) rfl monthly here
      rw [same]
      rfl
  have added_eq : (added.map Column.name).map columnOf = added := by
    rw [List.map_map]
    exact (List.map_congr_left named).trans (List.map_id added)
  exact added_eq ▸ names.map columnOf

end Prices

/-- The mean of a city is its total by its sales, and the vector has its prices month by month. -/
theorem average_eq_recursive :
    let root := Scope.ofQuery pricesQuery
    let months := monthsScope
    let plan := pricesPlan root months
    let tables := pricesTables root months
    months.key ≠ root.key ∧ build pricesQuery = .ok plan ∧ plan.Fits tables ∧
      ∃ evaluated added, plan.evaluate tables = .ok evaluated ∧
        evaluated.lookup root.key = some (cityPrices.extend added) ∧
        added.Perm [averageColumn, monthlyColumn] ∧ evaluated.lookup months.key = some monthPrices ∧
        plan.Computes tables root.key "average" averageColumn.values ∧
        plan.Computes tables root.key "monthly" monthlyColumn.values := by
  intro root months plan tables
  have apart : months.key ≠ root.key := monthsScope_apart
  have fits : plan.Fits tables := prices_fit rfl apart rfl rfl
  obtain ⟨average, monthly⟩ := prices_computed rfl apart
  obtain ⟨here, there⟩ := lookup_pricesTables apart
  obtain ⟨rootNames, monthsNames⟩ := pricesPlan_inMemory apart
  refine ⟨apart, pricesPlan_built, fits, ?_⟩
  rcases evaluate_eq_recursive pricesQuery plan tables pricesPlan_built fits with
    ⟨error, -, faulty⟩ | ⟨evaluated, ran, -, extended⟩
  · exact absurd faulty pricesPlan_faultless
  · obtain ⟨added, found, names, computed⟩ := extended root.key cityPrices here
    obtain ⟨monthsAdded, monthsFound, monthsNone, -⟩ := extended months.key monthPrices there
    refine ⟨evaluated, added, ran, found, ?_, ?_, average, monthly⟩
    · exact prices_added (names.trans (.of_eq rootNames)) computed average monthly
    · have nothing := List.map_eq_nil_iff.mp (List.perm_nil.mp (monthsNone.trans (.of_eq monthsNames)))
      rw [monthsFound, nothing, Table.extend_nil]

end Plan

end CubeQuery
