import CubeQuery.Proofs.Execution.Layered

/-! Tables after a run: each column that a run has added is the one that its node still gives when it is
evaluated over the tables at the end. Columns that come later do not change what a node reads. -/

namespace CubeQuery

open Steps

/-! ### Columns of nodes over longer tables -/

section

variable {current reference : Table} {added referenceAdded : List Column} {values : List Value}

theorem Table.lift_column_extend {name : String} {column : Column}
    (found : Table.lift (current.column name) = .ok column) :
    Table.lift ((current.extend added).column name) = .ok column := by
  have known := Table.column_eq_ok.mp (mapError_eq_ok.mp found)
  exact mapError_eq_ok.mpr (Table.column_eq_ok.mpr (Table.find?_extend_old known))

theorem Table.lift_columnsNamed_extend {names : List String} {columns : List Column}
    (found : Table.lift (current.columnsNamed names) = .ok columns) :
    Table.lift ((current.extend added).columnsNamed names) = .ok columns :=
  mapError_eq_ok.mpr (Table.columnsNamed_extend (mapError_eq_ok.mp found))

theorem BinaryOperator.column_extend {operator : BinaryOperator} {left right : String}
    (ran : operator.column left right current = .ok values) :
    operator.column left right (current.extend added) = .ok values := by
  unfold BinaryOperator.column at ran ⊢
  obtain ⟨lefts, leftFound, ran⟩ := bind_eq_ok.mp ran
  obtain ⟨rights, rightFound, ran⟩ := bind_eq_ok.mp ran
  rw [Table.lift_column_extend leftFound, ok_bind, Table.lift_column_extend rightFound]
  exact ran

theorem ComparisonMethod.column_extend (nonempty : current.columns ≠ [])
    (measures : ∀ column ∈ added, column.header.isMeasure = true)
    (referenceNonempty : reference.columns ≠ []) {method : ComparisonMethod} {operand : String}
    {shifterOf : List String → Except QueryError Shifter}
    (ran : method.column operand current reference shifterOf = .ok values) :
    method.column operand (current.extend added) (reference.extend referenceAdded) shifterOf =
      .ok values := by
  unfold ComparisonMethod.column at ran ⊢
  obtain ⟨grouping, groupingFound, ran⟩ := bind_eq_ok.mp ran
  obtain ⟨shifter, shifterFound, ran⟩ := bind_eq_ok.mp ran
  obtain ⟨column, columnFound, ran⟩ := bind_eq_ok.mp ran
  obtain ⟨referenceColumn, referenceFound, ran⟩ := bind_eq_ok.mp ran
  rw [Table.groupingNames_extend measures, Table.lift_columnsNamed_extend groupingFound, ok_bind,
    shifterFound, ok_bind, Table.lift_column_extend columnFound, ok_bind, Table.lift_column_extend referenceFound,
    ok_bind, ← ran, Table.rowIndices_extend nonempty]
  simp only [Table.point_extend measures, Shifter.referenceValue,
    Table.lastRowAt?_extend referenceNonempty]

theorem vectorColumn_extend (nonempty : current.columns ≠ [])
    (measures : ∀ column ∈ added, column.header.isMeasure = true)
    (vectorsNonempty : reference.columns ≠ []) {components : List String} {axis : String}
    {transformer : Option String}
    (ran : vectorColumn components axis transformer current reference = .ok values) :
    vectorColumn components axis transformer (current.extend added) (reference.extend referenceAdded) =
      .ok values := by
  unfold vectorColumn at ran ⊢
  obtain ⟨grouping, groupingFound, ran⟩ := bind_eq_ok.mp ran
  obtain ⟨axisColumn, axisFound, ran⟩ := bind_eq_ok.mp ran
  obtain ⟨columns, columnsFound, ran⟩ := bind_eq_ok.mp ran
  rw [Table.groupingNames_extend measures, Table.lift_columnsNamed_extend groupingFound, ok_bind,
    Table.lift_column_extend axisFound, ok_bind, Table.lift_columnsNamed_extend columnsFound, ok_bind, ← ran,
    Table.rowIndices_extend nonempty]
  simp only [Table.point_extend measures, vectorRows, Table.rowIndices_extend vectorsNonempty]

end

theorem Table.WellFormed.extend {table : Table} (formed : table.WellFormed)
    (nonempty : table.columns ≠ []) {column : Column} (new : column.name ∉ table.names)
    (length : column.values.length = table.rowCount) : (table.extend [column]).WellFormed where
  lengths := by
    intro other listed
    rw [rowCount_extend nonempty]
    rcases List.mem_append.mp listed with old | last
    · exact formed.lengths other old
    · rw [List.mem_singleton.mp last, length]
  distinct := by
    rw [names_extend, List.map_singleton, ← List.concat_eq_append]
    exact List.Nodup.concat new formed.distinct

/-! ### Tables over time -/

namespace ScopeTables

/-- Every table is well-formed and has a column. -/
def Formed (tables : ScopeTables) : Prop :=
  ∀ ⦃key table⦄, tables.lookup key = some table → table.WellFormed ∧ table.columns ≠ []

end ScopeTables

namespace Plan

variable {plan : Plan} {query : Query} {tables later next : ScopeTables} {node : PlanNode}
  {values : List Value}

/-- A column behind the tables of a run: that of a measure that is computed in memory. -/
structure Computed (plan : Plan) (key : ScopeKey) (column : Column) : Prop where
  measure : column.header.isMeasure = true
  inMemory : plan.isInMemory ⟨key, column.name⟩ = true

/-- Later tables have more computed columns behind their own. -/
def Grows (plan : Plan) (tables later : ScopeTables) : Prop :=
  ∀ ⦃key table⦄, tables.lookup key = some table → ∃ added,
    (∀ column ∈ added, plan.Computed key column) ∧ later.lookup key = some (table.extend added)

theorem Grows.refl (plan : Plan) (tables : ScopeTables) : plan.Grows tables tables := fun _ _ found =>
  ⟨[], by simp, by rw [found, Table.extend_nil]⟩

theorem Grows.trans {middle : ScopeTables} (first : plan.Grows tables middle)
    (rest : plan.Grows middle later) : plan.Grows tables later := by
  intro key table found
  obtain ⟨added, computed, middleFound⟩ := first found
  obtain ⟨more, moreComputed, laterFound⟩ := rest middleFound
  refine ⟨added ++ more, fun column listed => ?_, by rw [laterFound, Table.extend_extend]⟩
  exact (List.mem_append.mp listed).elim (computed column) (moreComputed column)

theorem Grows.get (grows : plan.Grows tables later) {key : ScopeKey} {table : Table}
    (found : tables.get key = .ok table) : ∃ added,
      (∀ column ∈ added, column.header.isMeasure = true) ∧
        later.get key = .ok (table.extend added) := by
  obtain ⟨added, computed, laterFound⟩ := grows (ScopeTables.get_eq_ok.mp found)
  exact ⟨added, fun column listed => (computed column listed).measure,
    ScopeTables.get_eq_ok.mpr laterFound⟩

/-- Only a measure in memory has a column of its own. -/
theorem isInMemory_of_nodeColumn (ran : plan.nodeColumn tables node = .ok values) :
    plan.isInMemory node = true := by
  unfold Plan.nodeColumn at ran
  obtain ⟨measure, measureFound, ran⟩ := bind_eq_ok.mp ran
  obtain ⟨current, -, ran⟩ := bind_eq_ok.mp ran
  rw [isInMemory_eq (Arena.get_eq_ok.mp measureFound)]
  cases measure with
  | binary | comparison | vector => rfl
  | aggregated | expression | count => cases ran
  | ref => rfl

/-- What a node gives, it gives over later tables too. -/
theorem nodeColumn_grows (formed : tables.Formed) (grows : plan.Grows tables later)
    (ran : plan.nodeColumn tables node = .ok values) : plan.nodeColumn later node = .ok values := by
  unfold Plan.nodeColumn at ran ⊢
  obtain ⟨measure, measureFound, ran⟩ := bind_eq_ok.mp ran
  obtain ⟨current, currentFound, ran⟩ := bind_eq_ok.mp ran
  obtain ⟨added, measures, currentLater⟩ := grows.get currentFound
  have nonempty := (formed (ScopeTables.get_eq_ok.mp currentFound)).2
  rw [measureFound, ok_bind, currentLater, ok_bind]
  cases measure with
  | binary label operator left right => exact BinaryOperator.column_extend ran
  | comparison label method base positions period columnSet ancestors =>
    obtain ⟨scope, scopeFound, ran⟩ := bind_eq_ok.mp ran
    obtain ⟨reference, referenceFound, ran⟩ := bind_eq_ok.mp ran
    obtain ⟨referenceAdded, -, referenceLater⟩ := grows.get referenceFound
    simp only [scopeFound, referenceLater, ok_bind]
    exact ComparisonMethod.column_extend nonempty measures
      (formed (ScopeTables.get_eq_ok.mp referenceFound)).2 ran
  | vector label fields axis transformer =>
    obtain ⟨key, scope_eq, ran⟩ := bind_eq_ok.mp ran
    obtain ⟨vectors, vectorsFound, ran⟩ := bind_eq_ok.mp ran
    obtain ⟨vectorsAdded, -, vectorsLater⟩ := grows.get vectorsFound
    simp only [scope_eq, vectorsLater, ok_bind]
    exact vectorColumn_extend nonempty measures
      (formed (ScopeTables.get_eq_ok.mp vectorsFound)).2 ran
  | aggregated | expression | count | ref => cases ran

/-- What one node does: it adds the column that it gives to the table of its scope. -/
theorem evaluateNode_eq_ok (formed : tables.Formed) (ran : plan.evaluateNode tables node = .ok next) :
    ∃ values table, plan.nodeColumn tables node = .ok values ∧
      tables.lookup node.scope = some table ∧ node.measure ∉ table.names ∧
      values.length = table.rowCount ∧
      next = tables.set node.scope
        (table.extend [⟨.measure node.measure (inferredType values), values⟩]) := by
  unfold Plan.evaluateNode at ran
  obtain ⟨values, values_eq, ran⟩ := bind_eq_ok.mp ran
  obtain ⟨table, table_eq, ran⟩ := bind_eq_ok.mp ran
  obtain ⟨extended, extended_eq, ran⟩ := bind_eq_ok.mp ran
  have found := ScopeTables.get_eq_ok.mp table_eq
  obtain ⟨rfl, new, length⟩ := Table.addColumn_inv (formed found).2 (mapError_eq_ok.mp extended_eq)
  exact ⟨values, table, values_eq, found, new, length, (Except.ok.inj ran).symm⟩

theorem evaluateNode_grows (formed : tables.Formed) (ran : plan.evaluateNode tables node = .ok next) :
    next.Formed ∧ plan.Grows tables next := by
  obtain ⟨values, table, values_eq, found, new, length, rfl⟩ := evaluateNode_eq_ok formed ran
  obtain ⟨tableFormed, nonempty⟩ := formed found
  constructor
  · intro key other otherFound
    by_cases here : key = node.scope
    · rw [here, ScopeTables.lookup_set_self found] at otherFound
      obtain rfl := Option.some.inj otherFound
      exact ⟨tableFormed.extend nonempty new length, by simp [Table.extend]⟩
    · rw [ScopeTables.lookup_set_other here] at otherFound
      exact formed otherFound
  · intro key other otherFound
    by_cases here : key = node.scope
    · subst here
      obtain rfl := Option.some.inj (found.symm.trans otherFound)
      refine ⟨_, fun column listed => ?_, ScopeTables.lookup_set_self found _⟩
      rw [List.mem_singleton.mp listed]
      exact ⟨rfl, isInMemory_of_nodeColumn values_eq⟩
    · exact ⟨[], by simp, by rw [ScopeTables.lookup_set_other here, otherFound, Table.extend_nil]⟩

/-- The measures in memory among the columns of a table are those that their nodes give. -/
def Settled (plan : Plan) (tables : ScopeTables) : Prop :=
  ∀ ⦃key table name column⦄, tables.lookup key = some table → table.find? name = some column →
    column.header.isMeasure = true → plan.isInMemory ⟨key, name⟩ = true →
      ⟨key, name⟩ ∈ plan.graph.nodes ∧ plan.nodeColumn tables ⟨key, name⟩ = .ok column.values

/-- Tables as they come from the database: no column is one of a measure in memory. -/
def Stored (plan : Plan) (tables : ScopeTables) : Prop :=
  ∀ ⦃key table column⦄, tables.lookup key = some table → column ∈ table.columns →
    column.header.isMeasure = true → plan.isInMemory ⟨key, column.name⟩ = false

theorem Stored.settled (stored : plan.Stored tables) : plan.Settled tables := by
  intro key table name column found columnFound measure inMemory
  have absent := stored found (Table.mem_of_find? columnFound) measure
  rw [Table.name_of_find? columnFound, inMemory] at absent
  cases absent

/-- The step of a run. -/
theorem Settled.evaluateNode (settled : plan.Settled tables) (formed : tables.Formed)
    (listed : node ∈ plan.graph.nodes) (ran : plan.evaluateNode tables node = .ok next) :
    plan.Settled next := by
  have grows := (evaluateNode_grows formed ran).2
  obtain ⟨values, table, values_eq, found, new, -, rfl⟩ := evaluateNode_eq_ok formed ran
  intro key other name column otherFound columnFound measure inMemory
  have old {before : Table} (beforeFound : tables.lookup key = some before)
      (known : before.find? name = some column) : ⟨key, name⟩ ∈ plan.graph.nodes ∧
        plan.nodeColumn (tables.set node.scope (table.extend
          [⟨.measure node.measure (inferredType values), values⟩])) ⟨key, name⟩ = .ok column.values := by
    obtain ⟨planned, given⟩ := settled beforeFound known measure inMemory
    exact ⟨planned, nodeColumn_grows formed grows given⟩
  by_cases here : key = node.scope
  · subst here
    rw [ScopeTables.lookup_set_self found] at otherFound
    obtain rfl := Option.some.inj otherFound
    cases known : table.find? name with
    | some before =>
      rw [Table.find?_extend_old known] at columnFound
      obtain rfl := Option.some.inj columnFound
      exact old found known
    | none =>
      rw [Table.find?_extend_new known] at columnFound
      obtain rfl := List.mem_singleton.mp (List.mem_of_find?_eq_some columnFound)
      have named := List.find?_some columnFound
      obtain rfl : node.measure = name := of_decide_eq_true named
      exact ⟨listed, nodeColumn_grows formed grows values_eq⟩
  · rw [ScopeTables.lookup_set_other here] at otherFound
    exact old otherFound columnFound

/-- The run. -/
theorem Settled.evaluateNodes (settled : plan.Settled tables) (formed : tables.Formed)
    {order : List PlanNode} (listed : order ⊆ plan.graph.nodes) {final : ScopeTables}
    (ran : plan.evaluateNodes order tables = .ok final) :
    plan.Settled final ∧ final.Formed ∧ plan.Grows tables final := by
  induction order generalizing tables with
  | nil =>
    obtain rfl := Except.ok.inj ran
    exact ⟨settled, formed, .refl _ _⟩
  | cons node rest ih =>
    obtain ⟨here, later⟩ := List.cons_subset.mp listed
    unfold Plan.evaluateNodes at ran
    obtain ⟨next, step, ran⟩ := bind_eq_ok.mp ran
    obtain ⟨nextFormed, grows⟩ := evaluateNode_grows formed step
    obtain ⟨finalSettled, finalFormed, rest⟩ := ih (settled.evaluateNode formed here step) nextFormed
      later ran
    exact ⟨finalSettled, finalFormed, grows.trans rest⟩

/-- The nodes of a run. -/
theorem WellBuilt.evaluate_eq_ok (built : plan.WellBuilt query) {final : ScopeTables}
    (ran : plan.evaluate tables = .ok final) :
    ∃ order, order ⊆ plan.graph.nodes ∧ plan.evaluateNodes order tables = .ok final := by
  obtain ⟨layers, layered, -, all, -⟩ := built.inMemoryLayers_spec
  unfold Plan.evaluate at ran
  rw [layered, ok_bind] at ran
  exact ⟨layers.flatten, fun node listed => ((all node).mp listed).1, ran⟩

end Plan

end CubeQuery
