import CubeQuery.Proofs.Plan.Outputs
import CubeQuery.Proofs.Sql.Acceptance
import CubeQuery.Proofs.Sql.QuotedNames

/-! The names under which a statement reads its sub-query. It writes the name that a column has in
results, while the select list inside gives a column its label, or its bare name. The two agree unless
a column is qualified, or labelled around another sub-query, or a literal. -/

namespace CubeQuery

open Steps

/-! ### Entries of a select list -/

/-- The name that an entry of a select list gives its column: the label behind `as` if there is one, or
else the name of the column by itself. A literal gives no name. -/
def TypedField.entryName? : TypedField → Option String
  | .column _ bare _ label => some (label.getD bare)
  | .labelled label _ => some label
  | .constant _ | .function _ => none

/-- A text with an identifier at its end: alone, behind a table or behind `as`. -/
inductive EntryText (identifier : String) : String → Prop where
  | alone : EntryText identifier identifier
  | qualified (table : String) : EntryText identifier (table ++ "." ++ identifier)
  | labelled (expression : String) : EntryText identifier (expression ++ " as " ++ identifier)

namespace Statement

variable {dialect : Dialect} {statement : Statement}

/-- The identifiers of a select list, those of the columns first. -/
def entryNames (dialect : Dialect) (statement : Statement) : List (Option String) :=
  (statement.select.map fun field => field.entryName?.map dialect.fieldName) ++
    statement.measures.map fun measure => some (dialect.measureLabel measure.label)

/-- The entries of a select list without the markers of totals. -/
def entries (dialect : Dialect) (statement : Statement) : List (Except QueryError String) :=
  statement.select.map (selectItem dialect) ++ statement.measures.map (TypedMeasure.selectSql dialect)

theorem entryText_of_selectItem {field : TypedField} {text name : String}
    (written : selectItem dialect field = .ok text) (named : field.entryName? = some name) :
    EntryText (dialect.fieldName name) text := by
  cases field with
  | constant | function => cases named
  | labelled label type =>
    obtain rfl := Option.some.inj named
    obtain rfl := Except.ok.inj written
    exact .alone
  | column store bare type label =>
    obtain rfl := Option.some.inj named
    cases label with
    | none =>
      cases store with
      | none =>
        obtain rfl := Except.ok.inj written
        exact .alone
      | some store =>
        obtain rfl := Except.ok.inj written
        exact .qualified _
    | some label =>
      obtain ⟨expression, -, written⟩ := bind_eq_ok.mp written
      obtain rfl := Except.ok.inj written
      exact .labelled expression

/-- A select list is written entry by entry, with markers of totals between columns and measures. -/
theorem entries_of_selectList {text : String} (written : statement.selectList dialect = .ok text) :
    ∃ columns markers measures : List String,
      statement.entries dialect = columns.map .ok ++ measures.map .ok ∧
        text = ", ".intercalate (columns ++ markers ++ measures) := by
  rw [selectList_eq] at written
  obtain ⟨columns, columns_eq, written⟩ := bind_eq_ok.mp written
  obtain ⟨markers, -, written⟩ := bind_eq_ok.mp written
  obtain ⟨measures, measures_eq, written⟩ := bind_eq_ok.mp written
  refine ⟨columns, markers, measures, ?_, (Except.ok.inj written).symm⟩
  unfold entries
  rw [map_eq_of_mapM columns_eq fun _ _ _ _ done => done.symm,
    map_eq_of_mapM measures_eq fun _ _ _ _ done => done.symm]

/-- An entry ends in the identifier that it gives. -/
theorem entryText_of_entries {index : Nat} {text identifier : String}
    (written : (statement.entries dialect)[index]? = some (.ok text))
    (named : (statement.entryNames dialect)[index]? = some (some identifier)) :
    EntryText identifier text := by
  unfold entries at written
  unfold entryNames at named
  by_cases inside : index < statement.select.length
  · rw [List.getElem?_append_left (by simpa using inside), List.getElem?_map] at written named
    obtain ⟨field, field_eq, written⟩ := Option.map_eq_some_iff.mp written
    rw [field_eq] at named
    obtain ⟨name, name_eq, rfl⟩ := Option.map_eq_some_iff.mp (Option.some.inj named)
    exact entryText_of_selectItem written name_eq
  · rw [List.getElem?_append_right (by simpa using inside), List.length_map, List.getElem?_map]
      at written named
    obtain ⟨measure, measure_eq, written⟩ := Option.map_eq_some_iff.mp written
    rw [measure_eq] at named
    obtain rfl := Option.some.inj (Option.some.inj named)
    obtain ⟨expression, -, written⟩ := bind_eq_ok.mp written
    obtain rfl := Except.ok.inj written
    exact .labelled expression

theorem entry_of_selectList {text identifier : String} {index : Nat}
    (written : statement.selectList dialect = .ok text)
    (named : (statement.entryNames dialect)[index]? = some (some identifier)) :
    ∃ before entry after, text = ", ".intercalate (before ++ entry :: after) ∧
      (statement.entries dialect)[index]? = some (.ok entry) ∧ EntryText identifier entry := by
  obtain ⟨columns, markers, measures, entries_eq, rfl⟩ := entries_of_selectList written
  have inside : index < (statement.entries dialect).length := by
    have placed := (List.getElem?_eq_some_iff.mp named).1
    simpa [entryNames, entries] using placed
  obtain ⟨item, stands⟩ : ∃ item, (statement.entries dialect)[index]? = some item :=
    ⟨_, List.getElem?_eq_getElem inside⟩
  obtain ⟨entry, listed, rfl⟩ : ∃ entry ∈ columns ++ markers ++ measures, .ok entry = item := by
    have member := List.mem_of_getElem? stands
    rw [entries_eq, List.mem_append, List.mem_map, List.mem_map] at member
    rcases member with ⟨entry, listed, written⟩ | ⟨entry, listed, written⟩
    · exact ⟨entry, by simp [listed], written⟩
    · exact ⟨entry, by simp [listed], written⟩
  obtain ⟨before, after, split⟩ := List.append_of_mem listed
  exact ⟨before, entry, after, by rw [split], stands, entryText_of_entries stands named⟩

end Statement

/-! ### Columns that keep their names -/

/-- The name of a column in results is that of its entry: over tables if it is labelled or not
qualified, and over a sub-query if it has no label of its own. -/
def Scope.exposes (scope : Scope) : Field → Bool
  | .table fullName none => scope.subQuery.isSome || !fullName.toList.contains '.'
  | .table fullName (some label) => scope.subQuery.isNone || label = fullName
  | .labelled _ => true
  | .constant _ | .function _ => false

theorem Field.qualified_ne_bare (store column : String) : column ≠ store ++ "." ++ column := by
  intro same
  have lengths := congrArg String.length same
  rw [String.length_append, String.length_append] at lengths
  have point : ".".length = 1 := rfl
  omega

theorem Resolver.entryName?_of_resolve {datastore : Datastore} {scope : Scope} {resolver : Resolver}
    (made : ofScope datastore scope = .ok resolver) {field : Field} {typed : TypedField}
    (resolved : resolver.resolve field = .ok typed) :
    typed.entryName? = some field.name ↔ scope.exposes field = true := by
  cases field with
  | constant | function =>
    obtain rfl := Except.ok.inj resolved
    simp [TypedField.entryName?, Scope.exposes]
  | labelled label =>
    obtain rfl := Except.ok.inj resolved
    simp [TypedField.entryName?, Scope.exposes, Field.name]
  | table fullName label =>
    cases source : scope.subQuery with
    | some query =>
      obtain ⟨outputs, -, offered⟩ := outputs_of_nested made source
      obtain ⟨type, -, rfl⟩ := (resolve_nested_eq_ok offered).mp resolved
      cases label with
      | none => simp [TypedField.entryName?, Scope.exposes, Field.name, source]
      | some label => simp [TypedField.entryName?, Scope.exposes, Field.name, source, eq_comm]
    | none =>
      have tables := outputs_of_ofScope made source
      obtain unqualified | ⟨store, column, bare, rfl⟩ := Field.unqualified_or_qualified fullName
      · rw [resolve_table tables (Field.splitQualified_of_notMem unqualified)] at resolved
        split at resolved
        · obtain rfl := Except.ok.inj resolved
          cases label <;> simp [TypedField.entryName?, Scope.exposes, Field.name, source, unqualified]
        · cases resolved
      · rw [resolve_table tables (Field.splitQualified_append store bare)] at resolved
        split at resolved
        · obtain rfl := Except.ok.inj resolved
          cases label with
          | none =>
            apply iff_of_false
            · exact fun same => Field.qualified_ne_bare store column (Option.some.inj same)
            · simp [Scope.exposes, source]
          | some label => simp [TypedField.entryName?, Scope.exposes, Field.name, source]
        · cases resolved

/-! ### Statements inside -/

section

variable {datastore : Datastore} {query : Query} {inner : Statement}

/-- The statement of a sub-query is inside of that of the query. -/
theorem Scope.lower_nested {scope : Scope} {measures : List Measure} {statement : Statement}
    (lowered : scope.lower datastore measures = .ok statement) (source : scope.subQuery = some query) :
    ∃ inner resolver, query.lower datastore = .ok inner ∧ statement.subQuery = some inner ∧
      Resolver.ofScope datastore scope = .ok resolver := by
  unfold Scope.lower lowerOver at lowered
  cases main : scope.table with
  | some table =>
    simp only [main, source] at lowered
    obtain ⟨_, -, lowered⟩ := bind_eq_ok.mp lowered
    obtain ⟨_, -, lowered⟩ := bind_eq_ok.mp lowered
    cases lowered
  | none =>
    simp only [main, source] at lowered
    obtain ⟨resolver, made, lowered⟩ := bind_eq_ok.mp lowered
    split at lowered
    · cases lowered
    · obtain ⟨inner, inner_eq, lowered⟩ := bind_eq_ok.mp lowered
      have parts : scope.Lowers resolver (none, some inner) measures statement :=
        lowerParts_eq_ok.mp lowered
      exact ⟨inner, resolver, inner_eq, (Prod.mk.inj parts.source).2, made⟩

theorem Query.lower_select (lowered : query.lower datastore = .ok inner) :
    ∃ resolver, Resolver.ofScope datastore (.ofQuery query) = .ok resolver ∧
      query.columns.mapM resolver.resolve = .ok inner.select ∧
      query.measures.mapM (Measure.lower resolver) = .ok inner.measures := by
  rw [Query.lower_eq] at lowered
  obtain ⟨resolver, rows, made, -, parts⟩ := Scope.lower_spec lowered
  rw [parts (.refl _), Scope.lowerParts_eq_ok] at lowered
  exact ⟨resolver, made, lowered.select, lowered.measures⟩

/-- Of the names by which a query is read, its select list gives those of the columns that keep them,
and those of the measures. -/
theorem Query.entryNames_getElem? (lowered : query.lower datastore = .ok inner) (dialect : Dialect)
    {index : Nat} {name : String} (named : query.outputNames[index]? = some name) :
    (inner.entryNames dialect)[index]? = some (some (dialect.fieldName name)) ↔
      ∀ column, query.columns[index]? = some column → (Scope.ofQuery query).exposes column = true := by
  obtain ⟨resolver, made, selected, measured⟩ := lower_select lowered
  have columns := mapM_eq_ok.mp selected
  have lengths := columns.length_eq
  unfold outputNames at named
  unfold Statement.entryNames
  by_cases inside : index < query.columns.length
  · rw [List.getElem?_append_left (by simpa using inside), List.getElem?_map,
      List.getElem?_eq_getElem inside] at named
    rw [List.getElem?_append_left (by simpa [← lengths] using inside), List.getElem?_map,
      List.getElem?_eq_getElem (lengths ▸ inside), List.getElem?_eq_getElem inside]
    have told := Resolver.entryName?_of_resolve made (columns.get inside (lengths ▸ inside))
    obtain rfl := Option.some.inj named
    simp only [Option.map_some, Option.some.injEq, Option.map_eq_some_iff, forall_eq']
    apply Iff.trans _ told
    constructor
    · rintro ⟨entry, entry_eq, same⟩
      obtain rfl := dialect.fieldName_injective same
      exact entry_eq
    · exact fun entry_eq => ⟨_, entry_eq, rfl⟩
  · have labels : inner.measures.map TypedMeasure.label = query.measures.map Measure.label :=
      map_eq_of_mapM measured fun measure _ typed _ done => Measure.label_of_lower done
    rw [List.getElem?_append_right (by simpa using inside), List.length_map, ← labels,
      List.getElem?_map] at named
    rw [List.getElem?_append_right (by simpa [← lengths] using inside), List.length_map, ← lengths,
      List.getElem?_map]
    obtain ⟨measure, measure_eq, rfl⟩ := Option.map_eq_some_iff.mp named
    have outside : query.columns[index]? = none := List.getElem?_eq_none (by omega)
    rw [measure_eq, outside]
    exact iff_of_true rfl nofun

end

/-- Around a sub-query a field is written as the name of the first output that has it. The select list
of the sub-query gives that output the same identifier, at the end of its entry, if it is a measure or
a column that keeps its name, and only then. -/
theorem Scope.outer_fields_name_outputs {datastore : Datastore} {scope : Scope} {query : Query}
    {measures : List Measure} {statement : Statement} (source : scope.subQuery = some query)
    (lowered : scope.lower datastore measures = .ok statement) :
    ∃ inner resolver, statement.subQuery = some inner ∧ Resolver.ofScope datastore scope = .ok resolver ∧
      ∀ fullName label typed, resolver.resolve (.table fullName label) = .ok typed →
        ∃ index, query.outputNames[index]? = some fullName ∧ fullName ∉ query.outputNames.take index ∧
          ∀ dialect : Dialect, ∃ identifier, typed.sql dialect = .ok identifier ∧
            ((inner.entryNames dialect)[index]? = some (some identifier) ↔
              ∀ column, query.columns[index]? = some column →
                (Scope.ofQuery query).exposes column = true) ∧
            ∀ text, inner.selectList dialect = .ok text →
              (inner.entryNames dialect)[index]? = some (some identifier) →
                ∃ before entry after, text = ", ".intercalate (before ++ entry :: after) ∧
                  (inner.entries dialect)[index]? = some (.ok entry) ∧ EntryText identifier entry := by
  obtain ⟨inner, resolver, innerLowered, nested, made⟩ := lower_nested lowered source
  refine ⟨inner, resolver, nested, made, fun fullName label typed resolved => ?_⟩
  obtain ⟨outputs, offered, outputs_eq⟩ := Resolver.outputs_of_nested made source
  obtain ⟨type, known, rfl⟩ := (Resolver.resolve_nested_eq_ok outputs_eq).mp resolved
  have listed : fullName ∈ query.outputNames := by
    rw [← Resolver.names_of_outputsOf offered]
    exact typeOf?_isSome_iff.mp ⟨type, known⟩
  obtain ⟨before, after, split, first⟩ := List.eq_append_cons_of_mem listed
  have named : query.outputNames[before.length]? = some fullName := by simp [split]
  refine ⟨before.length, named, by simpa [split] using first, fun dialect => ?_⟩
  refine ⟨dialect.fieldName fullName, rfl, Query.entryNames_getElem? innerLowered dialect named, ?_⟩
  exact fun text written entry => Statement.entry_of_selectList written entry

/-! ### Totals of scenarios and years -/

/-- Total prices, by scenario and by a year that is qualified with its table. -/
def scenarioTotals : Query :=
  { Query.empty with
    table := some (.ofName "sales")
    columns := [.ofName "scenario", .ofName "sales.year"]
    measures := [.aggregated "total" (.ofName "price") "sum" none] }

def totalsByScenario : Scope :=
  .ofQuery { Query.empty with
    subQuery := some scenarioTotals
    columns := [.ofName "scenario", .ofName "sales.year"] }

def totalsResolver : Resolver :=
  ⟨Sales.datastore, [], [], some [⟨"scenario", .string⟩, ⟨"sales.year", .long⟩, ⟨"total", .unknown⟩]⟩

/-- Around the totals the scenario is read by the name that it has inside, and the year is not. -/
theorem Scope.totalsByScenario_names : ∃ statement inner,
    totalsByScenario.lower Sales.datastore [] = .ok statement ∧ statement.subQuery = some inner ∧
      ∀ dialect : Dialect, (inner.entryNames dialect)[0]? = some (some (dialect.fieldName "scenario")) ∧
        (inner.entryNames dialect)[1]? ≠ some (some (dialect.fieldName "sales.year")) := by
  obtain ⟨statement, lowered⟩ : ∃ statement, totalsByScenario.lower Sales.datastore [] = .ok statement :=
    ⟨_, rfl⟩
  obtain ⟨inner, resolver, nested, made, each⟩ := outer_fields_name_outputs rfl lowered
  have known : Resolver.ofScope Sales.datastore totalsByScenario = .ok totalsResolver := rfl
  obtain rfl := Except.ok.inj (known.symm.trans made)
  have distinct : scenarioTotals.outputNames.Nodup := by decide
  refine ⟨statement, inner, lowered, nested, fun dialect => ⟨?_, ?_⟩⟩
  · obtain ⟨index, named, -, written⟩ := each "scenario" none (.labelled "scenario" .string) rfl
    obtain ⟨identifier, identifier_eq, told, -⟩ := written dialect
    obtain rfl := Except.ok.inj identifier_eq
    obtain rfl : 0 = index := (List.getElem?_inj (i := 0) (by decide) distinct).mp named.symm
    exact told.mpr fun column column_eq => Option.some.inj column_eq ▸ rfl
  · obtain ⟨index, named, -, written⟩ := each "sales.year" none (.labelled "sales.year" .long) rfl
    obtain ⟨identifier, identifier_eq, told, -⟩ := written dialect
    obtain rfl := Except.ok.inj identifier_eq
    obtain rfl : 1 = index := (List.getElem?_inj (i := 1) (by decide) distinct).mp named.symm
    intro same
    exact absurd (told.mp same _ rfl) (by decide)

end CubeQuery
