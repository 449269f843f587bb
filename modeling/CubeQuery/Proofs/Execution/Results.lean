import CubeQuery.Execution.Executor
import CubeQuery.Proofs.Execution.Buckets
import CubeQuery.Proofs.Execution.Followers

/-! Results of queries, from the tables of their scopes: columns in the order asked for, and rows in
the order of the sort keys. -/

namespace CubeQuery

open Steps

namespace Table

variable {table projected ordered : Table} {names : List String} {orders : List (Field × SortOrder)}

theorem columns_of_project (found : table.project names = .ok projected) :
    projected.columns ⊆ table.columns := by
  unfold project at found
  obtain ⟨columns, columns_eq, found⟩ := bind_eq_ok.mp found
  obtain rfl := Except.ok.inj found
  intro column listed
  obtain ⟨name, -, got⟩ := exists_of_mem_mapM columns_eq listed
  exact mem_of_find? (column_eq_ok.mp got)

theorem exists_project (included : names ⊆ table.names) : ∃ projected, table.project names = .ok projected := by
  obtain ⟨columns, columns_eq⟩ := exists_columnsNamed included
  exact ⟨⟨columns⟩, by unfold project; rw [columns_eq]; rfl⟩

theorem subset_of_project (found : table.project names = .ok projected) : names ⊆ table.names := by
  rw [← names_of_project found]
  exact List.map_subset _ (columns_of_project found)

theorem exists_sortKeys {keys : List SortKey} {other : Table} (same : other.names = table.names)
    (found : table.sortKeys orders = .ok keys) : ∃ others, other.sortKeys orders = .ok others := by
  cases orders with
  | nil => exact ⟨_, rfl⟩
  | cons order rest =>
    refine exists_mapM fun item listed => ?_
    obtain ⟨key, -, got⟩ := mem_of_mapM found listed
    obtain ⟨column, columnFound, -⟩ := bind_eq_ok.mp got
    have known := column_eq_ok.mp columnFound
    have there : item.1.name ∈ table.names := find?_isSome.mp (by rw [known]; rfl)
    rw [← same] at there
    obtain ⟨otherColumn, otherFound⟩ := Option.isSome_iff_exists.mp (find?_isSome.mpr there)
    exact ⟨⟨otherColumn, item.2⟩, bind_eq_ok.mpr ⟨otherColumn, column_eq_ok.mpr otherFound, rfl⟩⟩

theorem ordered_eq_ok (sorted : table.ordered orders = .ok ordered) :
    ∃ rows, rows.Perm table.rowIndices ∧ ordered = table.takeRows rows := by
  unfold Table.ordered at sorted
  obtain ⟨keys, -, sorted⟩ := bind_eq_ok.mp sorted
  exact ⟨_, List.mergeSort_perm _ _, (Except.ok.inj sorted).symm⟩

/-- The rows of a result are those of the table that it is taken from. -/
theorem rowCount_of_ordered (lengths : ∀ column ∈ table.columns, column.values.length = table.rowCount)
    (found : table.project names = .ok projected) (sorted : projected.ordered orders = .ok ordered) :
    ordered.columns = [] ∨ ordered.rowCount = table.rowCount := by
  obtain ⟨rows, same, rfl⟩ := ordered_eq_ok sorted
  by_cases empty : projected.columns = []
  · exact .inl (List.map_eq_nil_iff.mpr empty)
  · refine .inr ?_
    rw [rowCount_takeRows empty, same.length_eq]
    unfold rowIndices
    rw [List.length_range]
    unfold rowCount
    cases columns_eq : projected.columns with
    | nil => exact absurd columns_eq empty
    | cons first rest =>
      exact lengths first (columns_of_project found (columns_eq ▸ List.mem_cons_self))

end Table

namespace Table

variable {table follower : Table} {names : List String} {orders : List (Field × SortOrder)}

theorem Agrees.project (agrees : follower.Agrees table) : follower.project = table.project := by
  funext names
  unfold Table.project
  rw [agrees.columnsNamed]

/-- A result without rows, of a table that has lost its own. -/
theorem Hollow.result (hollow : follower.Hollow table) {projected ordered : Table}
    (found : table.project names = .ok projected) (sorted : projected.ordered orders = .ok ordered) :
    ∃ lost, follower.project names = .ok lost ∧ ∃ result, lost.ordered orders = .ok result ∧
      result.rowCount = 0 ∧ (ordered.columns = [] → result = ordered) := by
  have included : names ⊆ follower.names := fun name listed =>
    (hollow.names name).mpr (subset_of_project found listed)
  obtain ⟨lost, lostFound⟩ := exists_project included
  have sameNames : lost.names = projected.names :=
    (names_of_project lostFound).trans (names_of_project found).symm
  have noRows : lost.rowCount = 0 := by
    unfold rowCount
    cases columns_eq : lost.columns with
    | nil => rfl
    | cons first rest =>
      exact congrArg List.length
        (hollow.empty first (columns_of_project lostFound (columns_eq ▸ List.mem_cons_self)))
  obtain ⟨keys, keys_eq, -⟩ := bind_eq_ok.mp sorted
  obtain ⟨others, others_eq⟩ := exists_sortKeys sameNames keys_eq
  obtain ⟨result, result_eq⟩ : ∃ result, lost.ordered orders = .ok result :=
    ⟨_, bind_eq_ok.mpr ⟨others, others_eq, rfl⟩⟩
  refine ⟨lost, lostFound, result, result_eq, ?_, fun empty => ?_⟩
  · obtain ⟨rows, same, rfl⟩ := ordered_eq_ok result_eq
    by_cases empty : lost.columns = []
    · unfold rowCount takeRows
      rw [empty]
      rfl
    · rw [rowCount_takeRows empty, same.length_eq]
      unfold rowIndices
      rw [noRows]
      rfl
  · obtain ⟨rows, -, rfl⟩ := ordered_eq_ok result_eq
    obtain ⟨otherRows, -, rfl⟩ := ordered_eq_ok sorted
    have noColumns : projected.columns = [] := List.map_eq_nil_iff.mp empty
    have noLost : lost.columns = [] := by
      unfold Table.names at sameNames
      rw [noColumns] at sameNames
      exact List.map_eq_nil_iff.mp sameNames
    unfold takeRows
    rw [noColumns, noLost]
    rfl

end Table

namespace Plan

variable {plan : Plan} {query : Query} {lost : ScopeKey → Prop} {tables followers : ScopeTables}

/-- Evaluation adds columns to the tables. -/
theorem lookup_evaluateNodes {order : List PlanNode} {final : ScopeTables}
    (ran : plan.evaluateNodes order tables = .ok final) {key : ScopeKey} {table : Table}
    (found : tables.lookup key = some table) :
    ∃ added, final.lookup key = some (table.extend added) := by
  induction order generalizing tables table with
  | nil =>
    obtain rfl := Except.ok.inj ran
    exact ⟨[], by rw [found, Table.extend_nil]⟩
  | cons node rest ih =>
    unfold Plan.evaluateNodes at ran
    obtain ⟨next, step, ran⟩ := bind_eq_ok.mp ran
    unfold Plan.evaluateNode at step
    obtain ⟨values, -, step⟩ := bind_eq_ok.mp step
    obtain ⟨old, old_eq, step⟩ := bind_eq_ok.mp step
    obtain ⟨extended, extended_eq, step⟩ := bind_eq_ok.mp step
    obtain rfl := Except.ok.inj step
    have known := ScopeTables.get_eq_ok.mp old_eq
    by_cases here : key = node.scope
    · subst here
      obtain rfl := Option.some.inj (found.symm.trans known)
      obtain ⟨added, later⟩ := ih ran (ScopeTables.lookup_set_self known extended)
      rw [Table.eq_extend_of_addColumn (mapError_eq_ok.mp extended_eq), Table.extend_extend] at later
      exact ⟨_, later⟩
    · exact ih ran ((ScopeTables.lookup_set_other here extended).trans found)

/-- The result of a query from the tables of its scopes is the same from those that follow them,
unless the root has lost its rows. -/
theorem Follows.result (built : plan.WellBuilt query) (apart : plan.KeysTellApart)
    (follows : plan.Follows lost tables followers) {orders : List (Field × SortOrder)} {table : Table}
    (ran : plan.result orders tables = .ok table) :
    ∃ other, plan.result orders followers = .ok other ∧ (¬lost plan.root → other = table) ∧
      (lost plan.root → other.rowCount = 0 ∧ (table.columns = [] → other = table)) ∧
      ∀ root, tables.lookup plan.root = some root →
        table.columns = [] ∨ table.rowCount = root.rowCount := by
  have rootScope : plan.rootScope = .ok (.ofQuery query) := Discovery.scope_eq_ok.mpr built.rootScope
  obtain ⟨start, _, startFound, _, startFollows⟩ := follows built.rootScope
  unfold Plan.result at ran ⊢
  obtain ⟨evaluated, evaluated_eq, ran⟩ := bind_eq_ok.mp ran
  obtain ⟨others, others_eq, evaluatedFollow⟩ := follows.evaluate built apart evaluated_eq
  obtain ⟨root, follower, rootFound, followerFound, rootFollows⟩ := evaluatedFollow built.rootScope
  simp only [rootScope, rootFound, others_eq, followerFound, ok_bind] at ran ⊢
  obtain ⟨projected, projected_eq, sorted⟩ := bind_eq_ok.mp ran
  have found := mapError_eq_ok.mp projected_eq
  have ordered := mapError_eq_ok.mp sorted
  have rows : ∀ first, tables.lookup plan.root = some first →
      table.columns = [] ∨ table.rowCount = first.rowCount := by
    intro first firstFound
    obtain rfl := Option.some.inj (startFound.symm.trans firstFound)
    obtain ⟨layers, -, ranNodes⟩ := bind_eq_ok.mp evaluated_eq
    obtain ⟨added, later⟩ := lookup_evaluateNodes ranNodes startFound
    obtain rfl := Option.some.inj (rootFound.symm.trans later)
    have rows := Table.rowCount_of_ordered rootFollows.lengths found ordered
    rwa [Table.rowCount_extend startFollows.nonempty] at rows
  by_cases isLost : lost plan.root
  · obtain ⟨emptied, emptied_eq, result, result_eq, noRows, same⟩ :=
      (rootFollows.hollow isLost).2.result found ordered
    refine ⟨result, ?_, fun kept => absurd isLost kept, fun _ => ⟨noRows, same⟩, rows⟩
    rw [emptied_eq]
    exact mapError_eq_ok.mpr result_eq
  · refine ⟨table, ?_, fun _ => rfl, fun gone => absurd gone isLost, rows⟩
    rw [(rootFollows.agrees isLost).project, found]
    exact mapError_eq_ok.mpr ordered

end Plan

end CubeQuery
