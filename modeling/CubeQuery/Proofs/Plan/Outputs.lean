import CubeQuery.Proofs.Plan.Visibility

/-! What a query offers to the query around it: its columns and its measures, under their names. The
columns are resolved before anything else in it is looked at, and only an unknown column can fail
there. -/

namespace CubeQuery

open Steps

/-! ### Nested queries -/

namespace Query

/-- The query, or one that its rows come from, at any depth. -/
inductive Contains : Query → Query → Prop where
  | self (query : Query) : Contains query query
  | nested {query inner other : Query} (source : query.subQuery = some inner)
    (below : Contains inner other) : Contains query other

/-- Induction on the depth of nesting. -/
@[elab_as_elim]
theorem nestInduction {motive : Query → Prop}
    (step : ∀ query, (∀ inner, query.subQuery = some inner → motive inner) → motive query) :
    (query : Query) → motive query
  | ⟨_, none, _, _, _, _, _, _, _, _, _, _, _⟩ => step _ nofun
  | ⟨_, some inner, _, _, _, _, _, _, _, _, _, _, _⟩ => step _ fun _ same =>
    Option.some.inj same ▸ nestInduction step inner

theorem contains_iff {query other : Query} : query.Contains other ↔
    other = query ∨ ∃ inner, query.subQuery = some inner ∧ inner.Contains other := by
  constructor
  · rintro (_ | ⟨source, below⟩)
    · exact .inl rfl
    · exact .inr ⟨_, source, below⟩
  · rintro (rfl | ⟨inner, source, below⟩)
    · exact .self other
    · exact .nested source below

/-- The names by which a query is read, the columns first. -/
def outputNames (query : Query) : List String :=
  query.columns.map Field.name ++ query.measures.map Measure.label

theorem lower_eq (datastore : Datastore) (query : Query) :
    query.lower datastore = (Scope.ofQuery query).lower datastore query.measures := by
  obtain ⟨table, subQuery, columns, rollup, groupingSets, bucketSet, measures, whereCriteria,
    havingCriteria, orders, limit, virtualTables, parameters⟩ := query
  unfold Query.lower Scope.lower
  rfl

end Query

/-- A query that the rows of a scope come from, at any depth. -/
def Scope.Contains (scope : Scope) (inner : Query) : Prop :=
  ∃ query, scope.subQuery = some query ∧ query.Contains inner

/-! ### Outputs -/

/-- What a measure is to the query around. -/
def Measure.output : Measure → TypedName
  | .count label => ⟨label, .long⟩
  | measure => ⟨measure.label, .unknown⟩

theorem Measure.name_output (measure : Measure) : measure.output.name = measure.label := by
  cases measure <;> rfl

namespace Resolver

variable {datastore : Datastore}

theorem outputsOf_eq (datastore : Datastore) (query : Query) : outputsOf datastore query = (do
    let resolver ← ofScope datastore (.ofQuery query)
    let columns ← query.columns.mapM fun column => do
      return (⟨column.name, (← resolver.resolve column).type⟩ : TypedName)
    return columns ++ query.measures.map Measure.output) := by
  obtain ⟨table, subQuery, columns, rollup, groupingSets, bucketSet, measures, whereCriteria,
    havingCriteria, orders, limit, virtualTables, parameters⟩ := query
  conv_lhs => unfold outputsOf
  cases subQuery with
  | none => rfl
  | some inner =>
    unfold ofScope Scope.ofQuery
    dsimp only [Option.mapM_some]
    cases outputsOf datastore inner <;> rfl

theorem ofScope_eq_ok {scope : Scope} {resolver : Resolver} :
    ofScope datastore scope = .ok resolver ↔ ∃ outputs, scope.subQuery.mapM (outputsOf datastore) = .ok outputs ∧
      resolver = ⟨datastore, scope.table.elim [] TableRef.tableNames, scope.virtualTables, outputs⟩ := by
  unfold ofScope
  rw [bind_eq_ok]
  apply exists_congr
  intro outputs
  apply and_congr_right
  intro _
  exact ⟨fun same => (Except.ok.inj same).symm, fun same => same ▸ rfl⟩

/-- Over a sub-query, fields are resolved to what it offers. -/
theorem outputs_of_nested {scope : Scope} {resolver : Resolver} {query : Query}
    (made : ofScope datastore scope = .ok resolver) (source : scope.subQuery = some query) :
    ∃ outputs, outputsOf datastore query = .ok outputs ∧ resolver.outputs = some outputs := by
  obtain ⟨offered, nested, rfl⟩ := ofScope_eq_ok.mp made
  rw [source] at nested
  obtain ⟨outputs, outputs_eq, nested⟩ := bind_eq_ok.mp nested
  obtain rfl := Except.ok.inj nested
  exact ⟨outputs, outputs_eq, rfl⟩

theorem ofScope_eq_error {scope : Scope} {error : QueryError} :
    ofScope datastore scope = .error error ↔
      ∃ query, scope.subQuery = some query ∧ outputsOf datastore query = .error error := by
  unfold ofScope
  cases scope.subQuery with
  | none => simp
  | some query =>
    rw [Option.mapM_some]
    cases offered : outputsOf datastore query <;> simp [offered]

/-- A query that offers its outputs has resolved its columns. -/
theorem resolves_of_outputsOf {query : Query} {outputs : List TypedName}
    (offered : outputsOf datastore query = .ok outputs) :
    ∃ resolver, ofScope datastore (.ofQuery query) = .ok resolver ∧
      ∀ column ∈ query.columns, ∃ typed, resolver.resolve column = .ok typed := by
  rw [outputsOf_eq] at offered
  obtain ⟨resolver, made, offered⟩ := bind_eq_ok.mp offered
  obtain ⟨columns, columns_eq, -⟩ := bind_eq_ok.mp offered
  refine ⟨resolver, made, fun column listed => ?_⟩
  obtain ⟨named, -, resolved⟩ := mem_of_mapM columns_eq listed
  obtain ⟨typed, resolved, -⟩ := bind_eq_ok.mp resolved
  exact ⟨typed, resolved⟩

/-- The outputs of a query fail as those inside it do, or at one of its own columns. -/
theorem outputsOf_eq_error {query : Query} {error : QueryError}
    (failed : outputsOf datastore query = .error error) :
    (∃ inner, query.subQuery = some inner ∧ outputsOf datastore inner = .error error) ∨
      ∃ resolver, ofScope datastore (.ofQuery query) = .ok resolver ∧
        ∃ column ∈ query.columns, resolver.resolve column = .error error := by
  rw [outputsOf_eq] at failed
  rcases bind_eq_error.mp failed with inside | ⟨resolver, made, failed⟩
  · exact .inl (ofScope_eq_error.mp inside)
  · rcases bind_eq_error.mp failed with unknown | ⟨_, -, done⟩
    · obtain ⟨column, listed, unknown⟩ := error_of_mapM unknown
      rcases bind_eq_error.mp unknown with unknown | ⟨_, -, done⟩
      · exact .inr ⟨resolver, made, column, listed, unknown⟩
      · cases done
    · cases done

theorem names_of_outputsOf {query : Query} {outputs : List TypedName}
    (offered : outputsOf datastore query = .ok outputs) : outputs.map TypedName.name = query.outputNames := by
  rw [outputsOf_eq] at offered
  obtain ⟨resolver, -, offered⟩ := bind_eq_ok.mp offered
  obtain ⟨columns, columns_eq, offered⟩ := bind_eq_ok.mp offered
  obtain rfl := Except.ok.inj offered
  have names : columns.map TypedName.name = query.columns.map Field.name := by
    apply map_eq_of_mapM columns_eq
    intro column _ named _ resolved
    obtain ⟨typed, -, resolved⟩ := bind_eq_ok.mp resolved
    obtain rfl := Except.ok.inj resolved
    rfl
  unfold Query.outputNames
  rw [List.map_append, names, List.map_map]
  exact congrArg _ (List.map_congr_left fun measure _ => measure.name_output)

/-- Around a sub-query a column is the output that has its name. -/
theorem resolve_nested {resolver : Resolver} {outputs : List TypedName} (nested : resolver.outputs = some outputs)
    {fullName : String} {label : Option String} : resolver.resolve (.table fullName label) =
      match typeOf? outputs fullName with
      | some type => .ok (.labelled fullName type)
      | none => .error (.unknownField fullName) := by
  unfold resolve
  cases known : typeOf? outputs fullName <;> simp [nested, known]

theorem resolve_nested_eq_ok {resolver : Resolver} {outputs : List TypedName}
    (nested : resolver.outputs = some outputs) {fullName : String} {label : Option String} {typed : TypedField} :
    resolver.resolve (.table fullName label) = .ok typed ↔
      ∃ type, typeOf? outputs fullName = some type ∧ typed = .labelled fullName type := by
  rw [resolve_nested nested]
  cases typeOf? outputs fullName <;> simp [eq_comm]

/-- Only the columns of tables and sub-queries can be unknown. -/
theorem unknownField_of_error {resolver : Resolver} {field : Field} {error : QueryError}
    (failed : resolver.resolve field = .error error) :
    ∃ fullName label, field = .table fullName label ∧ error = .unknownField fullName := by
  cases field with
  | table fullName label =>
    refine ⟨fullName, label, rfl, ?_⟩
    cases offered : resolver.outputs with
    | none => exact error_of_resolve offered failed
    | some outputs =>
      rw [resolve_nested offered] at failed
      cases known : typeOf? outputs fullName with
      | some type =>
        rw [known] at failed
        cases failed
      | none =>
        rw [known] at failed
        exact (Except.error.inj failed).symm
  | constant | function | labelled => cases failed

end Resolver

/-! ### Offered columns -/

/-- What the columns of a scope can name: a column that one of its tables declares, a column of any
table that is qualified with the table, or an output of its sub-query. -/
inductive Scope.Offers (datastore : Datastore) (scope : Scope) : String → Prop where
  | plain {table : TableRef} {column name : String} {type : FieldType} (main : scope.table = some table)
    (source : scope.subQuery = none) (unqualified : '.' ∉ column.toList) (read : table.Reads name)
    (declared : Declares datastore scope.virtualTables name column type) : Offers datastore scope column
  | qualified {store column : String} {type : FieldType} (source : scope.subQuery = none)
    (bare : '.' ∉ column.toList) (declared : Declares datastore scope.virtualTables store column type) :
    Offers datastore scope (store ++ "." ++ column)
  | output {query : Query} {name : String} (source : scope.subQuery = some query)
    (listed : name ∈ query.outputNames) : Offers datastore scope name

theorem typeOf?_isSome_iff {columns : List TypedName} {name : String} :
    (∃ type, typeOf? columns name = some type) ↔ name ∈ columns.map TypedName.name := by
  rw [← Option.isSome_iff_exists]
  unfold typeOf?
  rw [Option.isSome_map, List.find?_isSome, List.mem_map]
  simp only [decide_eq_true_eq]

theorem Scope.offers_nested_iff {datastore : Datastore} {scope : Scope} {query : Query} {name : String}
    (source : scope.subQuery = some query) : scope.Offers datastore name ↔ name ∈ query.outputNames := by
  constructor
  · rintro (⟨-, none, -⟩ | ⟨none, -⟩ | ⟨other, listed⟩)
    · cases source.symm.trans none
    · cases source.symm.trans none
    · obtain rfl := Option.some.inj (source.symm.trans other)
      exact listed
  · exact .output source

theorem Scope.offers_unqualified_iff {datastore : Datastore} {scope : Scope} {column : String}
    (source : scope.subQuery = none) (unqualified : '.' ∉ column.toList) :
    scope.Offers datastore column ↔ ∃ table, scope.table = some table ∧
      ∃ name type, table.Reads name ∧ Declares datastore scope.virtualTables name column type := by
  constructor
  · rintro (⟨main, -, -, read, declared⟩ | ⟨-, -, -⟩ | ⟨nested, -⟩)
    · exact ⟨_, main, _, _, read, declared⟩
    · simp at unqualified
    · cases source.symm.trans nested
  · rintro ⟨table, main, name, type, read, declared⟩
    exact .plain main source unqualified read declared

theorem Scope.offers_qualified_iff {datastore : Datastore} {scope : Scope} {store column : String}
    (source : scope.subQuery = none) (bare : '.' ∉ column.toList) :
    scope.Offers datastore (store ++ "." ++ column) ↔
      ∃ type, Declares datastore scope.virtualTables store column type := by
  constructor
  · intro offered
    generalize name_eq : store ++ "." ++ column = fullName at offered
    cases offered with
    | plain _ _ unqualified => simp [← name_eq] at unqualified
    | qualified _ otherBare declared =>
      obtain ⟨rfl, rfl⟩ := Field.qualified_inj bare otherBare name_eq
      exact ⟨_, declared⟩
    | output nested => cases source.symm.trans nested
  · rintro ⟨type, declared⟩
    exact .qualified source bare declared

/-- A column resolves if the scope offers it. -/
theorem Resolver.resolves_iff_offers {datastore : Datastore} {scope : Scope} {resolver : Resolver}
    (made : ofScope datastore scope = .ok resolver) {fullName : String} {label : Option String} :
    (∃ typed, resolver.resolve (.table fullName label) = .ok typed) ↔ scope.Offers datastore fullName := by
  cases source : scope.subQuery with
  | some query =>
    obtain ⟨outputs, offered, outputs_eq⟩ := outputs_of_nested made source
    rw [Scope.offers_nested_iff source, ← names_of_outputsOf offered, ← typeOf?_isSome_iff]
    simp only [resolve_nested_eq_ok outputs_eq, exists_and_left, exists_eq, and_true, exists_comm]
  | none =>
    obtain ⟨outputs, none_eq, rfl⟩ := ofScope_eq_ok.mp made
    rw [source] at none_eq
    obtain rfl := Except.ok.inj none_eq
    obtain unqualified | ⟨store, column, bare, rfl⟩ := Field.unqualified_or_qualified fullName
    · rw [resolves_iff rfl (Field.splitQualified_of_notMem unqualified),
        Scope.offers_unqualified_iff source unqualified]
      cases scope.table with
      | none => simp [columnType?]
      | some table =>
        rw [exists_columnType?_plain rfl]
        simp
    · rw [resolves_iff rfl (Field.splitQualified_append store bare),
        Scope.offers_qualified_iff source bare]
      simp only [columnType?_qualified]

end CubeQuery
