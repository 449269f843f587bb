import CubeQuery.Proofs.Execution.Layered
import CubeQuery.Proofs.Table.Agreement

/-! Two runs of a plan, over tables that agree or have lost their rows. A scope that groups by nothing
may lose its rows; then so do the columns computed in it, and no other column changes. -/

namespace CubeQuery

open Steps

/-! ### Columns of nodes -/

section

variable {current reference follower other : Table} {values : List Value}

theorem BinaryOperator.column_of_agrees (agrees : follower.Agrees current) (operator : BinaryOperator)
    (left right : String) :
    operator.column left right follower = operator.column left right current := by
  unfold BinaryOperator.column
  rw [agrees.column]

theorem BinaryOperator.column_of_hollow (hollow : follower.Hollow current) {operator : BinaryOperator}
    {left right : String} (ran : operator.column left right current = .ok values) :
    operator.column left right follower = .ok [] := by
  have inCurrent {name : String} {column : Column}
      (found : Table.lift (current.column name) = .ok column) : name ∈ current.names :=
    Table.find?_isSome.mp (Option.isSome_iff_exists.mpr
      ⟨column, Table.column_eq_ok.mp (mapError_eq_ok.mp found)⟩)
  unfold BinaryOperator.column at ran ⊢
  obtain ⟨leftColumn, leftFound, ran⟩ := bind_eq_ok.mp ran
  obtain ⟨rightColumn, rightFound, -⟩ := bind_eq_ok.mp ran
  obtain ⟨leftLost, leftLost_eq, leftEmpty⟩ := hollow.exists_column (inCurrent leftFound)
  obtain ⟨rightLost, rightLost_eq, rightEmpty⟩ := hollow.exists_column (inCurrent rightFound)
  simp [leftLost_eq, rightLost_eq, leftEmpty, Table.lift, Except.mapError]

/-- Where nothing is grouped by, no shift leads anywhere. -/
theorem Shifter.shift_of_bare {scope : Scope} {label : String} {positions : SortedMap Field String}
    {period : Option Period} {columnSet : Option ColumnSetKey} {ancestors : Option (List Field)}
    {shifter : Shifter}
    (found : Shifter.ofComparison scope label positions period columnSet ancestors [] = .ok shifter)
    (point : List Value) : shifter.shift point = none := by
  unfold Shifter.ofComparison at found
  split at found
  · unfold ofPeriod at found
    obtain ⟨_, -, found⟩ := bind_eq_ok.mp found
    cases found
  · next ancestors =>
    obtain rfl := Except.ok.inj found
    have none_found : (ancestors.filterMap fun ancestor => ([] : List String).idxOf? ancestor.name) = [] :=
      List.filterMap_eq_nil_iff.mpr fun _ _ => rfl
    unfold ofAncestors
    rw [none_found]
    rfl
  · split at found
    · cases found
    · cases found
  · cases found

theorem ComparisonMethod.column_of_agrees (currentAgrees : follower.Agrees current)
    (referenceAgrees : other.Agrees reference) (method : ComparisonMethod) (operand : String)
    (shifterOf : List String → Except QueryError Shifter) :
    method.column operand follower other shifterOf = method.column operand current reference shifterOf := by
  unfold ComparisonMethod.column Shifter.referenceValue
  rw [currentAgrees.groupingNames, currentAgrees.column, currentAgrees.rowIndices, currentAgrees.point,
    referenceAgrees.columnsNamed, referenceAgrees.column, referenceAgrees.lastRowAt?]

/-- Where nothing is grouped by, a comparison has no references. -/
theorem ComparisonMethod.column_of_bare {method : ComparisonMethod} {operand : String}
    {shifterOf : List String → Except QueryError Shifter} (bare : current.groupingNames = [])
    (nowhere : ∀ shifter, shifterOf [] = .ok shifter → ∀ point, shifter.shift point = none) :
    method.column operand current reference shifterOf = .ok values ↔
      (∃ shifter, shifterOf [] = .ok shifter) ∧ operand ∈ reference.names ∧
        ∃ column, current.find? operand = some column ∧
          values = current.rowIndices.map fun row => method.apply (column.cell row) .null := by
  have unmoved {shifter : Shifter} (found : shifterOf [] = .ok shifter) (column referenceColumn : Column) :
      (current.rowIndices.map fun row => method.apply (column.cell row)
        (shifter.referenceValue reference [] referenceColumn (current.point row))) =
      current.rowIndices.map fun row => method.apply (column.cell row) .null := by
    refine List.map_congr_left fun row _ => ?_
    unfold Shifter.referenceValue
    rw [nowhere shifter found]
    rfl
  unfold ComparisonMethod.column
  rw [bare]
  constructor
  · intro ran
    obtain ⟨grouping, grouping_eq, ran⟩ := bind_eq_ok.mp ran
    obtain rfl : [] = grouping := Except.ok.inj grouping_eq
    obtain ⟨shifter, shifterFound, ran⟩ := bind_eq_ok.mp ran
    obtain ⟨column, columnFound, ran⟩ := bind_eq_ok.mp ran
    obtain ⟨referenceColumn, referenceFound, ran⟩ := bind_eq_ok.mp ran
    have known := Table.column_eq_ok.mp (mapError_eq_ok.mp referenceFound)
    refine ⟨⟨shifter, shifterFound⟩, Table.find?_isSome.mp (by rw [known]; rfl), column,
      Table.column_eq_ok.mp (mapError_eq_ok.mp columnFound), ?_⟩
    rw [← unmoved shifterFound column referenceColumn]
    exact (Except.ok.inj ran).symm
  · rintro ⟨⟨shifter, shifterFound⟩, listed, column, columnFound, rfl⟩
    obtain ⟨referenceColumn, referenceFound⟩ := Option.isSome_iff_exists.mp (Table.find?_isSome.mpr listed)
    refine bind_eq_ok.mpr ⟨[], rfl, bind_eq_ok.mpr ⟨shifter, shifterFound, bind_eq_ok.mpr ⟨column,
      mapError_eq_ok.mpr (Table.column_eq_ok.mpr columnFound), bind_eq_ok.mpr ⟨referenceColumn,
        mapError_eq_ok.mpr (Table.column_eq_ok.mpr referenceFound), ?_⟩⟩⟩⟩
    exact congrArg Except.ok (unmoved shifterFound column referenceColumn)

theorem vectorColumn_of_agrees (currentAgrees : follower.Agrees current)
    (vectorsAgree : other.Agrees reference) (components : List String) (axis : String)
    (transformer : Option String) :
    vectorColumn components axis transformer follower other =
      vectorColumn components axis transformer current reference := by
  unfold vectorColumn vectorRows
  rw [currentAgrees.groupingNames, currentAgrees.rowIndices, currentAgrees.point,
    vectorsAgree.columnsNamed, vectorsAgree.column, vectorsAgree.rowIndices]

theorem vectorColumn_of_hollow (bare : current.groupingNames = []) (hollow : follower.Hollow current)
    (vectorsAgree : other.Agrees reference) {components : List String} {axis : String}
    {transformer : Option String}
    (ran : vectorColumn components axis transformer current reference = .ok values) :
    vectorColumn components axis transformer follower other = .ok [] := by
  unfold vectorColumn at ran ⊢
  rw [bare] at ran
  rw [hollow.groupingNames_eq, hollow.rowIndices_eq, vectorsAgree.columnsNamed, vectorsAgree.column]
  obtain ⟨grouping, grouping_eq, ran⟩ := bind_eq_ok.mp ran
  obtain ⟨axisColumn, axisFound, ran⟩ := bind_eq_ok.mp ran
  obtain ⟨columns, columnsFound, -⟩ := bind_eq_ok.mp ran
  rw [grouping_eq, ok_bind, axisFound, ok_bind, columnsFound]
  rfl

end

/-! ### Runs -/

/-- The table of a scope in one run and in another: they agree, unless the scope has lost its rows. -/
structure Scope.Follows (scope : Scope) (lost : Prop) (table follower : Table) : Prop where
  bare : scope.groupingNames = [] → table.groupingNames = []
  nonempty : table.columns ≠ []
  lengths : ∀ column ∈ table.columns, column.values.length = table.rowCount
  agrees : ¬lost → follower.Agrees table
  hollow : lost → scope.groupingNames = [] ∧ follower.Hollow table

namespace Scope.Follows

variable {scope : Scope} {lost : Prop} {table follower : Table}

theorem names (follows : scope.Follows lost table follower) (name : String) :
    name ∈ follower.names ↔ name ∈ table.names := by
  by_cases isLost : lost
  · exact (follows.hollow isLost).2.names name
  · exact (follows.agrees isLost).names name

/-- What is lost can be told by looking at the tables. -/
theorem of_agrees (follows : scope.Follows lost table follower) :
    scope.Follows (¬follower.Agrees table) table follower where
  bare := follows.bare
  nonempty := follows.nonempty
  lengths := follows.lengths
  agrees := not_not.mp
  hollow := fun differs => follows.hollow (by
    by_contra kept
    exact differs (follows.agrees kept))

theorem follower_bare (follows : scope.Follows lost table follower) (bare : scope.groupingNames = []) :
    follower.groupingNames = [] := by
  by_cases isLost : lost
  · exact (follows.hollow isLost).2.groupingNames_eq
  · rw [(follows.agrees isLost).groupingNames, follows.bare bare]

theorem addColumn (follows : scope.Follows lost table follower) {column : Column} (other : Column)
    {next : Table}
    (added : table.addColumn column = .ok next) (measure : column.header.isMeasure = true)
    (otherMeasure : other.header.isMeasure = true) (name : other.name = column.name)
    (same : ¬lost → other = column) (empty : lost → other.values = []) :
    ∃ nextFollower, follower.addColumn other = .ok nextFollower ∧
      scope.Follows lost next nextFollower := by
  obtain ⟨rfl, new, length⟩ := Table.addColumn_inv follows.nonempty added
  have otherNew : other.name ∉ follower.names := by
    rw [name, follows.names]
    exact new
  have otherLength : other.values.length = follower.rowCount := by
    by_cases isLost : lost
    · rw [empty isLost, (follows.hollow isLost).2.rowCount_eq]
      rfl
    · rw [same isLost, (follows.agrees isLost).rows, length]
  refine ⟨_, Table.addColumn_eq_ok otherNew otherLength, ?_, ?_, ?_, ?_, ?_⟩
  · intro bare
    rw [Table.groupingNames_extend (by simpa using measure), follows.bare bare]
  · simp [Table.extend]
  · intro listed member
    rw [Table.rowCount_extend follows.nonempty]
    rcases List.mem_append.mp member with old | last
    · exact follows.lengths listed old
    · rw [List.mem_singleton.mp last, length]
  · intro kept
    rw [same kept]
    exact (follows.agrees kept).extend follows.nonempty measure
  · intro isLost
    obtain ⟨bare, hollow⟩ := follows.hollow isLost
    exact ⟨bare, hollow.extend name otherMeasure (empty isLost)⟩

end Scope.Follows

namespace Plan

variable {plan : Plan} {query : Query} {lost : ScopeKey → Prop} {tables followers : ScopeTables}

/-- Every scope of a plan has its table in both runs. -/
def Follows (plan : Plan) (lost : ScopeKey → Prop) (tables followers : ScopeTables) : Prop :=
  ∀ {key scope}, plan.discovery.scopes.lookup key = some scope → ∃ table follower,
    tables.lookup key = some table ∧ followers.lookup key = some follower ∧
      scope.Follows (lost key) table follower

/-- No two scopes of a plan have one key. -/
def KeysTellApart (plan : Plan) : Prop :=
  ∀ {scope other}, plan.Involves scope → plan.Involves other → scope.key = other.key → scope = other

/-- A scope that a node reads is the one that is planned under its key. -/
theorem WellBuilt.lookup_dependency (built : plan.WellBuilt query) (apart : plan.KeysTellApart)
    {node : PlanNode} (listed : node ∈ plan.graph.nodes) {scope : Scope} {label : String}
    (dependent : ⟨scope.key, label⟩ ∈ plan.graph.dependencies node) (involved : plan.Involves scope) :
    plan.discovery.scopes.lookup scope.key = some scope := by
  obtain ⟨-, ⟨actual, -, found, -⟩, -⟩ := built.reads _ (built.planned node listed _ dependent)
  have same := apart (involves_of_lookup found) involved (built.keyed found)
  rwa [same] at found

theorem Follows.comparison (built : plan.WellBuilt query) (apart : plan.KeysTellApart)
    (follows : plan.Follows lost tables followers) {node : PlanNode} (listed : node ∈ plan.graph.nodes)
    {scope : Scope} {label : String} {method : ComparisonMethod} {base : Measure}
    {positions : SortedMap Field String} {period : Option Period} {columnSet : Option ColumnSetKey}
    {ancestors : Option (List Field)}
    (scopeFound : plan.discovery.scopes.lookup node.scope = some scope)
    (measureFound : plan.arena.find? node.measure =
      some (.comparison label method base positions period columnSet ancestors))
    {current follower : Table} (currentFollows : scope.Follows (lost node.scope) current follower) :
    ∃ reference other, tables.get (plan.referenceScope node) = .ok reference ∧
      followers.get (plan.referenceScope node) = .ok other ∧
      ∀ {values}, method.column base.label current reference
          (Shifter.ofComparison scope label positions period columnSet ancestors) = .ok values →
        ∃ others, method.column base.label follower other
            (Shifter.ofComparison scope label positions period columnSet ancestors) = .ok others ∧
          (¬lost node.scope → others = values) ∧ (lost node.scope → others = []) := by
  obtain ⟨referenceScope, referenceFound, reference_eq, -, dependent⟩ :=
    built.referenceScope_eq listed scopeFound measureFound
  have involved := built.involves_reference listed scopeFound measureFound referenceFound
  obtain ⟨reference, other, found, otherFound, referenceFollows⟩ :=
    follows (built.lookup_dependency apart listed dependent involved)
  refine ⟨reference, other, ?_, ?_, fun {values} ran => ?_⟩
  · rw [reference_eq, ScopeTables.get_eq_ok.mpr found]
  · rw [reference_eq, ScopeTables.get_eq_ok.mpr otherFound]
  have sameNames := Scope.groupingNames_of_forComparison referenceFound
  by_cases bare : scope.groupingNames = []
  · have nowhere : ∀ shifter,
        Shifter.ofComparison scope label positions period columnSet ancestors [] = .ok shifter →
          ∀ point, shifter.shift point = none := fun _ found => Shifter.shift_of_bare found
    obtain ⟨shifted, known, column, columnFound, values_eq⟩ :=
      (ComparisonMethod.column_of_bare (currentFollows.bare bare) nowhere).mp ran
    have otherKnown := (referenceFollows.names base.label).mpr known
    by_cases isLost : lost node.scope
    · have hollow := (currentFollows.hollow isLost).2
      obtain ⟨empty, emptyFound, -⟩ := hollow.exists_column
        (Table.find?_isSome.mp (by rw [columnFound]; rfl))
      refine ⟨[], (ComparisonMethod.column_of_bare (currentFollows.follower_bare bare) nowhere).mpr
        ⟨shifted, otherKnown, empty, Table.column_eq_ok.mp emptyFound, ?_⟩, fun kept => absurd isLost kept,
        fun _ => rfl⟩
      rw [hollow.rowIndices_eq]
      rfl
    · have agrees := currentFollows.agrees isLost
      refine ⟨values, (ComparisonMethod.column_of_bare (currentFollows.follower_bare bare) nowhere).mpr
        ⟨shifted, otherKnown, column, (agrees.found _).trans columnFound, ?_⟩, fun _ => rfl,
        fun gone => absurd gone isLost⟩
      rw [agrees.rowIndices, values_eq]
  · have kept : ¬lost node.scope := fun gone => bare (currentFollows.hollow gone).1
    have referenceKept : ¬lost referenceScope.key := fun gone =>
      bare (sameNames ▸ (referenceFollows.hollow gone).1)
    refine ⟨values, ?_, fun _ => rfl, fun gone => absurd gone kept⟩
    rw [ComparisonMethod.column_of_agrees (currentFollows.agrees kept)
      (referenceFollows.agrees referenceKept), ran]

theorem Follows.vector (built : plan.WellBuilt query) (apart : plan.KeysTellApart)
    (follows : plan.Follows lost tables followers) {node : PlanNode} (listed : node ∈ plan.graph.nodes)
    {scope : Scope} {label : String} {fields : List (Field × String)} {axis : Field}
    {transformer : Option String}
    (scopeFound : plan.discovery.scopes.lookup node.scope = some scope)
    (measureFound : plan.arena.find? node.measure = some (.vector label fields axis transformer))
    (nonempty : fields ≠ []) {current follower : Table}
    (currentFollows : scope.Follows (lost node.scope) current follower) :
    ∃ key vectors other, plan.vectorScope node = .ok key ∧ tables.get key = .ok vectors ∧
      followers.get key = .ok other ∧ ∀ {components values},
        vectorColumn components axis.name transformer current vectors = .ok values →
          ∃ others, vectorColumn components axis.name transformer follower other = .ok others ∧
            (¬lost node.scope → others = values) ∧ (lost node.scope → others = []) := by
  obtain ⟨vectorScope_eq, operands⟩ := built.vectorScope_eq listed scopeFound measureFound nonempty
  have involved := built.involves_vectors listed scopeFound measureFound nonempty
  have dependent : ⟨(scope.forVector axis).key, Measure.componentLabel label 0⟩ ∈
      plan.graph.dependencies node := by
    cases fields with
    | nil => exact absurd rfl nonempty
    | cons field others => exact operands _ List.mem_cons_self
  obtain ⟨vectors, other, found, otherFound, vectorsFollow⟩ :=
    follows (built.lookup_dependency apart listed dependent involved)
  refine ⟨_, vectors, other, vectorScope_eq, ScopeTables.get_eq_ok.mpr found,
    ScopeTables.get_eq_ok.mpr otherFound, fun {components values} ran => ?_⟩
  -- The axis is one of the columns that the vector scope groups by.
  have kept : ¬lost (scope.forVector axis).key := fun gone =>
    List.ne_nil_of_mem (scope.groupingNames_forVector axis).2 (vectorsFollow.hollow gone).1
  have agrees := vectorsFollow.agrees kept
  by_cases isLost : lost node.scope
  · obtain ⟨bare, hollow⟩ := currentFollows.hollow isLost
    exact ⟨[], vectorColumn_of_hollow (currentFollows.bare bare) hollow agrees ran,
      fun stays => absurd isLost stays, fun _ => rfl⟩
  · refine ⟨values, ?_, fun _ => rfl, fun gone => absurd gone isLost⟩
    rw [vectorColumn_of_agrees (currentFollows.agrees isLost) agrees, ran]

theorem Follows.nodeColumn (built : plan.WellBuilt query) (apart : plan.KeysTellApart)
    (follows : plan.Follows lost tables followers) {node : PlanNode} (listed : node ∈ plan.graph.nodes)
    {values : List Value} (ran : plan.nodeColumn tables node = .ok values) :
    ∃ others, plan.nodeColumn followers node = .ok others ∧
      (¬lost node.scope → others = values) ∧ (lost node.scope → others = []) := by
  obtain ⟨-, ⟨scope, measure, scopeFound, measureFound, -⟩, -⟩ := built.reads node listed
  obtain ⟨current, follower, found, followerFound, currentFollows⟩ := follows scopeFound
  unfold Plan.nodeColumn at ran ⊢
  rw [Arena.get_eq_ok.mpr measureFound, ok_bind, ScopeTables.get_eq_ok.mpr found, ok_bind] at ran
  rw [Arena.get_eq_ok.mpr measureFound, ok_bind, ScopeTables.get_eq_ok.mpr followerFound, ok_bind]
  cases measure with
  | binary label operator left right =>
    by_cases isLost : lost node.scope
    · have hollow := (currentFollows.hollow isLost).2
      exact ⟨[], operator.column_of_hollow hollow ran, fun kept => absurd isLost kept, fun _ => rfl⟩
    · refine ⟨values, ?_, fun _ => rfl, fun gone => absurd gone isLost⟩
      exact (operator.column_of_agrees (currentFollows.agrees isLost) left.label right.label).trans ran
  | comparison label method base positions period columnSet ancestors =>
    obtain ⟨reference, other, got, otherGot, column⟩ :=
      follows.comparison built apart listed scopeFound measureFound currentFollows
    have scopeRead : plan.scope node.scope = .ok scope := Discovery.scope_eq_ok.mpr scopeFound
    simp only [scopeRead, got, otherGot, ok_bind] at ran ⊢
    exact column ran
  | vector label fields axis transformer =>
    cases fields with
    | nil =>
      simp only [built.vectorScope_nil listed measureFound, error_bind] at ran
      cases ran
    | cons field more =>
      obtain ⟨key, vectors, other, vectorScope_eq, got, otherGot, column⟩ :=
        follows.vector built apart listed scopeFound measureFound (List.cons_ne_nil _ _) currentFollows
      simp only [vectorScope_eq, got, otherGot, ok_bind] at ran ⊢
      exact column ran
  | aggregated | expression | count | ref => cases ran

/-- The step: what a node adds to one table it adds to the other, without the rows that are lost. -/
theorem Follows.evaluateNode (built : plan.WellBuilt query) (apart : plan.KeysTellApart)
    (follows : plan.Follows lost tables followers) {node : PlanNode} (listed : node ∈ plan.graph.nodes)
    {next : ScopeTables} (ran : plan.evaluateNode tables node = .ok next) :
    ∃ nextFollowers, plan.evaluateNode followers node = .ok nextFollowers ∧
      plan.Follows lost next nextFollowers := by
  obtain ⟨-, ⟨scope, -, scopeFound, -⟩, -⟩ := built.reads node listed
  obtain ⟨table, follower, found, followerFound, tableFollows⟩ := follows scopeFound
  unfold Plan.evaluateNode at ran ⊢
  obtain ⟨values, values_eq, ran⟩ := bind_eq_ok.mp ran
  rw [ScopeTables.get_eq_ok.mpr found, ok_bind] at ran
  obtain ⟨extended, extended_eq, ran⟩ := bind_eq_ok.mp ran
  obtain rfl := Except.ok.inj ran
  obtain ⟨others, others_eq, same, empty⟩ := follows.nodeColumn built apart listed values_eq
  obtain ⟨extendedFollower, added, extendedFollows⟩ := tableFollows.addColumn
    ⟨.measure node.measure (inferredType others), others⟩ (mapError_eq_ok.mp extended_eq)
    rfl rfl rfl (fun kept => by rw [same kept]) empty
  refine ⟨followers.set node.scope extendedFollower, ?_, fun {key other} otherFound => ?_⟩
  · rw [others_eq, ok_bind, ScopeTables.get_eq_ok.mpr followerFound, ok_bind, added]
    rfl
  · by_cases here : key = node.scope
    · subst here
      obtain rfl := Option.some.inj (scopeFound.symm.trans otherFound)
      exact ⟨extended, extendedFollower, ScopeTables.lookup_set_self found _,
        ScopeTables.lookup_set_self followerFound _, extendedFollows⟩
    · rw [ScopeTables.lookup_set_other here, ScopeTables.lookup_set_other here]
      exact follows otherFound

theorem Follows.evaluateNodes (built : plan.WellBuilt query) (apart : plan.KeysTellApart)
    (follows : plan.Follows lost tables followers) {order : List PlanNode}
    (listed : order ⊆ plan.graph.nodes) {final : ScopeTables}
    (ran : plan.evaluateNodes order tables = .ok final) :
    ∃ finalFollowers, plan.evaluateNodes order followers = .ok finalFollowers ∧
      plan.Follows lost final finalFollowers := by
  induction order generalizing tables followers with
  | nil =>
    obtain rfl := Except.ok.inj ran
    exact ⟨followers, rfl, follows⟩
  | cons node rest ih =>
    obtain ⟨here, later⟩ := List.cons_subset.mp listed
    unfold Plan.evaluateNodes at ran ⊢
    obtain ⟨next, step, ran⟩ := bind_eq_ok.mp ran
    obtain ⟨nextFollowers, nextStep, nextFollows⟩ := follows.evaluateNode built apart here step
    rw [nextStep, ok_bind]
    exact ih nextFollows later ran

theorem Follows.evaluate (built : plan.WellBuilt query) (apart : plan.KeysTellApart)
    (follows : plan.Follows lost tables followers) {final : ScopeTables}
    (ran : plan.evaluate tables = .ok final) :
    ∃ finalFollowers, plan.evaluate followers = .ok finalFollowers ∧
      plan.Follows lost final finalFollowers := by
  obtain ⟨layers, layered, -, all, -⟩ := built.inMemoryLayers_spec
  unfold Plan.evaluate at ran ⊢
  rw [layered, ok_bind] at ran ⊢
  exact follows.evaluateNodes built apart (fun node member => ((all node).mp member).1) ran

end Plan

end CubeQuery
