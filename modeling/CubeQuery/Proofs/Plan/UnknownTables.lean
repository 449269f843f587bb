import CubeQuery.Proofs.Plan.Outputs

/-! Tables that nothing is known of. At one level they are found before any field is resolved. Around
a sub-query it is the other way round: what the sub-query offers is asked for first, so that a column
which it cannot resolve is reported in place of a table which it cannot read. -/

namespace CubeQuery

open Steps

variable {datastore : Datastore} {scope level : Scope} {name fullName : String}

/-- The scope, or that of a query that its rows come from. -/
def Scope.Level (scope level : Scope) : Prop :=
  level = scope ∨ ∃ inner, scope.Contains inner ∧ level = .ofQuery inner

/-- A table of the scope is not one of its own, nor one of the database. -/
structure Scope.Lacks (datastore : Datastore) (scope : Scope) (name : String) : Prop where
  read : ∃ table, scope.table = some table ∧ table.Reads name
  free : ∀ virtual ∈ scope.virtualTables, virtual.name ≠ name
  absent : datastore.store? name = none

/-- A column of the query is none that its scope offers. -/
structure Query.LacksColumn (datastore : Datastore) (query : Query) (fullName : String) : Prop where
  selected : ∃ label, Field.table fullName label ∈ query.columns
  unknown : ¬(Scope.ofQuery query).Offers datastore fullName

/-! ### Tables -/

/-- The check fails at a table that is lacking, and only there. -/
theorem Scope.checkTables_of_lacks {table : TableRef} (main : scope.table = some table)
    (lacks : scope.Lacks datastore name) : ∃ other, scope.Lacks datastore other ∧
      datastore.checkTables table scope.virtualTables = .error (.unknownTable other datastore.names) := by
  obtain ⟨⟨_, main', read⟩, free, absent⟩ := lacks
  obtain rfl := Option.some.inj (main.symm.trans main')
  have unknown : (!(scope.virtualTables.any (·.name = name) || (datastore.store? name).isSome)) = true := by
    simpa [absent] using free
  have found : (table.tableNames.find? fun name =>
      !(scope.virtualTables.any (·.name = name) || (datastore.store? name).isSome)).isSome = true :=
    List.find?_isSome.mpr ⟨name, TableRef.mem_tableNames.mpr read, unknown⟩
  obtain ⟨other, found⟩ := Option.isSome_iff_exists.mp found
  refine ⟨other, ⟨⟨table, main, TableRef.mem_tableNames.mp (List.mem_of_find?_eq_some found)⟩, ?_, ?_⟩, ?_⟩
  · have otherUnknown := List.find?_some found
    simp at otherUnknown
    exact otherUnknown.1
  · have otherUnknown := List.find?_some found
    simp at otherUnknown
    exact otherUnknown.2
  · unfold Datastore.checkTables
    simp only [found]

/-! ### Columns of sub-queries -/

/-- A query that offers its outputs lacks no column, and none is lacking inside it. -/
theorem Resolver.not_lacksColumn_of_outputsOf {query : Query} :
    ∀ outputs, outputsOf datastore query = .ok outputs →
      ∀ inner, query.Contains inner → ∀ fullName, ¬inner.LacksColumn datastore fullName := by
  induction query using Query.nestInduction with
  | step query ih =>
    intro outputs offered inner contained fullName lacks
    obtain ⟨resolver, made, resolves⟩ := resolves_of_outputsOf offered
    rcases Query.contains_iff.mp contained with rfl | ⟨nested, source, below⟩
    · obtain ⟨⟨label, selected⟩, unknown⟩ := lacks
      exact unknown ((resolves_iff_offers made).mp (resolves _ selected))
    · obtain ⟨innerOutputs, innerOffered, -⟩ := outputs_of_nested made source
      exact ih nested source innerOutputs innerOffered inner below fullName lacks

/-- Nothing but a lacking column keeps a query from offering its outputs. -/
theorem Resolver.lacksColumn_of_outputsOf {query : Query} :
    ∀ error, outputsOf datastore query = .error error → ∃ inner fullName, query.Contains inner ∧
      inner.LacksColumn datastore fullName ∧ error = .unknownField fullName := by
  induction query using Query.nestInduction with
  | step query ih =>
    intro error failed
    rcases outputsOf_eq_error failed with ⟨nested, source, inside⟩ | ⟨resolver, made, column, listed, unknown⟩
    · obtain ⟨inner, fullName, below, lacks⟩ := ih nested source error inside
      exact ⟨inner, fullName, .nested source below, lacks⟩
    · obtain ⟨fullName, label, rfl, rfl⟩ := unknownField_of_error unknown
      refine ⟨query, fullName, .self query, ⟨⟨label, listed⟩, fun offered => ?_⟩, rfl⟩
      obtain ⟨typed, resolves⟩ := (resolves_iff_offers made).mpr offered
      cases unknown.symm.trans resolves

/-! ### Levels -/

section

variable {measures : List Measure} {query : Query} {error : QueryError}

theorem Scope.lower_of_checkTables {table : TableRef} (main : scope.table = some table)
    (failed : datastore.checkTables table scope.virtualTables = .error error) :
    scope.lower datastore measures = .error error := by
  unfold Scope.lower lowerOver
  simp only [main, failed, error_bind]

theorem Scope.lower_of_outputsOf (main : scope.table = none) (source : scope.subQuery = some query)
    (failed : Resolver.outputsOf datastore query = .error error) :
    scope.lower datastore measures = .error error := by
  have unmade := Resolver.ofScope_eq_error.mpr ⟨query, source, failed⟩
  unfold Scope.lower lowerOver
  simp only [main, unmade, pure_eq_ok, ok_bind, error_bind]

theorem Scope.lower_of_nested (main : scope.table = none) (source : scope.subQuery = some query)
    (plain : query.bucketSet = none) {resolver : Resolver}
    (made : Resolver.ofScope datastore scope = .ok resolver)
    (failed : query.lower datastore = .error error) : scope.lower datastore measures = .error error := by
  unfold Scope.lower lowerOver
  simp only [main, source, made, plain, failed, pure_eq_ok, ok_bind, error_bind, Option.isSome_none,
    Bool.false_eq_true, if_false]

end

/-- Induction on the depth of nesting, from the scope of a query to the scopes around. -/
@[elab_as_elim]
theorem Scope.nestInduction {motive : Scope → Prop}
    (step : ∀ scope, (∀ query, scope.subQuery = some query → motive (.ofQuery query)) → motive scope)
    (scope : Scope) : motive scope := by
  apply step
  rintro query -
  induction query using Query.nestInduction with
  | step query ih => exact step _ ih

theorem Scope.contains_of_nested {query inner : Query} (source : scope.subQuery = some query)
    (below : (Scope.ofQuery query).Contains inner) : scope.Contains inner := by
  obtain ⟨nested, nestedSource, below⟩ := below
  exact ⟨query, source, .nested nestedSource below⟩

theorem Scope.level_of_nested {query : Query} (source : scope.subQuery = some query)
    (below : (Scope.ofQuery query).Level level) : scope.Level level := by
  rcases below with rfl | ⟨inner, below, rfl⟩
  · exact .inr ⟨query, ⟨query, source, .self query⟩, rfl⟩
  · exact .inr ⟨inner, contains_of_nested source below, rfl⟩

/-- The levels of a scope are its own and those of its sub-query. -/
theorem Scope.level_cases {query : Query} (source : scope.subQuery = some query)
    (inside : scope.Level level) : level = scope ∨ (Scope.ofQuery query).Level level := by
  rcases inside with own | ⟨inner, ⟨_, other, below⟩, rfl⟩
  · exact .inl own
  · obtain rfl := Option.some.inj (source.symm.trans other)
    right
    rcases Query.contains_iff.mp below with rfl | ⟨nested, nestedSource, below⟩
    · exact .inl rfl
    · exact .inr ⟨inner, ⟨nested, nestedSource, below⟩, rfl⟩

/-- By induction on the depth of nesting: around a sub-query the failure is that of the sub-query, since
its outputs are there, and a scope over tables checks them first. -/
theorem Scope.unknownTable_of_lacks
    (known : ∀ inner, scope.Contains inner → ∀ fullName, ¬inner.LacksColumn datastore fullName)
    (single : ∀ level, scope.Level level → level.table.isSome ≠ level.subQuery.isSome)
    (plain : ∀ inner, scope.Contains inner → inner.bucketSet = none)
    (lacking : ∃ level name, scope.Level level ∧ level.Lacks datastore name) (measures : List Measure) :
    ∃ level name, scope.Level level ∧ level.Lacks datastore name ∧
      scope.lower datastore measures = .error (.unknownTable name datastore.names) := by
  induction scope using Scope.nestInduction generalizing measures with
  | step scope ih =>
    obtain ⟨level, name, inside, lacks⟩ := lacking
    have one := single scope (.inl rfl)
    cases source : scope.subQuery with
    | none =>
      obtain ⟨table, main⟩ : ∃ table, scope.table = some table := by
        simpa [source, Option.ne_none_iff_exists'] using one
      obtain rfl : level = scope := by
        rcases inside with own | ⟨inner, ⟨query, nested, -⟩, -⟩
        · exact own
        · cases source.symm.trans nested
      obtain ⟨other, otherLacks, failed⟩ := checkTables_of_lacks main lacks
      exact ⟨level, other, .inl rfl, otherLacks, lower_of_checkTables main failed⟩
    | some query =>
      have main : scope.table = none := by simpa [source] using one
      have below : (Scope.ofQuery query).Level level := by
        rcases level_cases source inside with rfl | below
        · obtain ⟨table, tabled, -⟩ := lacks.read
          cases main.symm.trans tabled
        · exact below
      obtain ⟨place, other, placed, otherLacks, failed⟩ := ih query source
        (fun inner contained => known inner (contains_of_nested source contained))
        (fun level inside => single level (level_of_nested source inside))
        (fun inner contained => plain inner (contains_of_nested source contained))
        ⟨level, name, below, lacks⟩ query.measures
      rw [← Query.lower_eq] at failed
      refine ⟨place, other, level_of_nested source placed, otherLacks, ?_⟩
      cases made : Resolver.ofScope datastore scope with
      | ok resolver =>
        exact lower_of_nested main source (plain query ⟨query, source, .self query⟩) made failed
      | error error =>
        obtain ⟨_, again, unoffered⟩ := Resolver.ofScope_eq_error.mp made
        obtain rfl := Option.some.inj (source.symm.trans again)
        obtain ⟨inner, fullName, contained, unknown, -⟩ :=
          Resolver.lacksColumn_of_outputsOf error unoffered
        exact absurd unknown (known inner ⟨query, source, contained⟩ fullName)

theorem Scope.unknownField_of_lacksColumn {inner : Query}
    (single : ∀ level, scope.Level level → level.table.isSome ≠ level.subQuery.isSome)
    (contained : scope.Contains inner) (lacks : inner.LacksColumn datastore fullName)
    (measures : List Measure) :
    ∃ other otherName, scope.Contains other ∧ other.LacksColumn datastore otherName ∧
      scope.lower datastore measures = .error (.unknownField otherName) := by
  obtain ⟨query, source, below⟩ := contained
  have main : scope.table = none := by simpa [source] using single scope (.inl rfl)
  cases offered : Resolver.outputsOf datastore query with
  | ok outputs =>
    exact absurd lacks (Resolver.not_lacksColumn_of_outputsOf outputs offered inner below fullName)
  | error error =>
    obtain ⟨other, otherName, otherBelow, otherLacks, rfl⟩ :=
      Resolver.lacksColumn_of_outputsOf error offered
    exact ⟨other, otherName, ⟨query, source, otherBelow⟩, otherLacks,
      lower_of_outputsOf main source offered⟩

/-- A scope with a table that nothing is known of, at any depth, cannot be lowered. If every column of
the sub-queries is one that its level offers, the error names such a table and the tables that there
are. If not, it names a column of a sub-query that is not offered. -/
theorem Scope.unknown_tables_reported (datastore : Datastore) (scope : Scope) (measures : List Measure)
    (single : ∀ level, scope.Level level → level.table.isSome ≠ level.subQuery.isSome)
    (plain : ∀ inner, scope.Contains inner → inner.bucketSet = none)
    (lacking : ∃ level name, scope.Level level ∧ level.Lacks datastore name) :
    ((∀ inner, scope.Contains inner → ∀ fullName, ¬inner.LacksColumn datastore fullName) →
      ∃ level name, scope.Level level ∧ level.Lacks datastore name ∧
        scope.lower datastore measures = .error (.unknownTable name datastore.names)) ∧
    ∀ inner fullName, scope.Contains inner → inner.LacksColumn datastore fullName →
      ∃ other otherName, scope.Contains other ∧ other.LacksColumn datastore otherName ∧
        scope.lower datastore measures = .error (.unknownField otherName) := by
  constructor
  · intro known
    exact unknownTable_of_lacks known single plain lacking measures
  · intro inner fullName contained lacks
    exact unknownField_of_lacksColumn single contained lacks measures

/-! ### Orders that are not stored -/

/-- The number of orders, by some columns. -/
def ordersBy (columns : List Field) : Query :=
  { Query.empty with table := some (.ofName "orders"), columns, measures := [.count "orders"] }

/-- The greatest number of them. -/
def mostOrders (columns : List Field) : Scope :=
  .ofQuery { Query.empty with
    subQuery := some (ordersBy columns)
    measures := [.aggregated "most" (.ofName "orders") "max" none] }

theorem mostOrders_contains_iff {columns : List Field} {inner : Query} :
    (mostOrders columns).Contains inner ↔ inner = ordersBy columns := by
  constructor
  · rintro ⟨query, source, below⟩
    obtain rfl := Option.some.inj source
    rcases Query.contains_iff.mp below with same | ⟨_, nested, -⟩
    · exact same
    · cases nested
  · rintro rfl
    exact ⟨ordersBy columns, rfl, .self _⟩

theorem mostOrders_lacks (columns : List Field) :
    ∃ level name, (mostOrders columns).Level level ∧ level.Lacks Sales.datastore name :=
  ⟨.ofQuery (ordersBy columns), "orders", .inr ⟨_, mostOrders_contains_iff.mpr rfl, rfl⟩,
    ⟨.ofName "orders", rfl, .self _ _⟩, nofun, by decide⟩

theorem mostOrders_single (columns : List Field) : ∀ level, (mostOrders columns).Level level →
    level.table.isSome ≠ level.subQuery.isSome := by
  rintro level (rfl | ⟨inner, contained, rfl⟩)
  · exact Bool.false_ne_true
  · obtain rfl := mostOrders_contains_iff.mp contained
    exact Bool.false_ne_true.symm

theorem ordersBy_status_lacks :
    (ordersBy [.ofName "status"]).LacksColumn Sales.datastore "status" := by
  refine ⟨⟨none, List.mem_singleton_self _⟩, fun offered => ?_⟩
  obtain ⟨table, main, name, type, read, declared⟩ :=
    (Scope.offers_unqualified_iff rfl (by decide)).mp offered
  obtain rfl := Option.some.inj main
  have only : name = "orders" := by
    simpa [TableRef.ofName, TableRef.tableNames, TableRef.joinedNames] using TableRef.mem_tableNames.mpr read
  rw [only] at declared
  rcases declared with ⟨listed, -⟩ | ⟨-, stored, -⟩
  · simp [ordersBy, Query.empty, Scope.ofQuery] at listed
  · cases (show Sales.datastore.store? "orders" = none by decide).symm.trans stored

/-- Orders are reported as a table that is not known, unless one of their columns is asked for. -/
theorem Scope.mostOrders_reported :
    (∃ level name, (mostOrders []).Level level ∧ level.Lacks Sales.datastore name ∧
      (mostOrders []).lower Sales.datastore [] =
        .error (.unknownTable name Sales.datastore.names)) ∧
    ∃ other otherName, (mostOrders [.ofName "status"]).Contains other ∧
      other.LacksColumn Sales.datastore otherName ∧
      (mostOrders [.ofName "status"]).lower Sales.datastore [] = .error (.unknownField otherName) := by
  have plain (columns : List Field) : ∀ inner, (mostOrders columns).Contains inner →
      inner.bucketSet = none := by
    intro inner contained
    rw [mostOrders_contains_iff.mp contained]
    rfl
  constructor
  · apply (unknown_tables_reported Sales.datastore (mostOrders []) [] (mostOrders_single [])
      (plain []) (mostOrders_lacks [])).1
    rintro inner contained fullName ⟨⟨label, selected⟩, -⟩
    obtain rfl := mostOrders_contains_iff.mp contained
    cases selected
  · exact (unknown_tables_reported Sales.datastore (mostOrders [.ofName "status"]) []
      (mostOrders_single _) (plain _) (mostOrders_lacks _)).2 _ "status"
        (mostOrders_contains_iff.mpr rfl) ordersBy_status_lacks

end CubeQuery
