import CubeQuery.Proofs.Engine

/-! Statements of one scope for different measures: they differ in their measures alone. -/

namespace CubeQuery

open Steps

theorem Measure.label_of_lower {resolver : Resolver} {measure : Measure} {typed : TypedMeasure}
    (lowered : measure.lower resolver = .ok typed) : typed.label = measure.label := by
  unfold Measure.lower at lowered
  cases measure with
  | aggregated label field aggregation criteria =>
    obtain ⟨resolved, -, lowered⟩ := bind_eq_ok.mp lowered
    obtain ⟨typedCriteria, -, lowered⟩ := bind_eq_ok.mp lowered
    obtain rfl := Except.ok.inj lowered
    rfl
  | expression label sql =>
    obtain rfl := Except.ok.inj lowered
    rfl
  | count label =>
    obtain rfl := Except.ok.inj lowered
    rfl
  | binary | comparison | vector | ref => cases lowered

namespace Field

theorem eq_of_unqualified {fullName column : String} (split : splitQualified fullName = (none, column)) :
    column = fullName := by
  unfold splitQualified at split
  dsimp only at split
  split at split
  · exact (Prod.mk.inj split).2.symm
  · cases (Prod.mk.inj split).1

theorem eq_of_qualified {fullName store column : String}
    (split : splitQualified fullName = (some store, column)) : store ++ "." ++ column = fullName := by
  unfold splitQualified at split
  dsimp only at split
  split at split
  · cases (Prod.mk.inj split).1
  next point qualifier after =>
    obtain ⟨store_eq, rfl⟩ := Prod.mk.inj split
    obtain rfl := Option.some.inj store_eq
    have dot := List.head?_dropWhile_not (· != '.') fullName.toList.reverse
    have parts := List.takeWhile_append_dropWhile (p := (· != '.')) (l := fullName.toList.reverse)
    rw [after] at dot parts
    obtain rfl : point = '.' := by simpa using dot
    apply String.toList_inj.mp
    rw [String.toList_append, String.toList_append, String.toList_ofList, String.toList_ofList]
    simpa using congrArg List.reverse parts

end Field

/-- Over tables a field has the name of its column. -/
theorem Resolver.name_of_resolve {resolver : Resolver} (tables : resolver.outputs = none) {field : Field}
    {typed : TypedField} (resolved : resolver.resolve field = .ok typed) : typed.name = field.name := by
  unfold Resolver.resolve at resolved
  cases field with
  | table fullName label =>
    rw [tables] at resolved
    rcases split : Field.splitQualified fullName with ⟨store, column⟩
    simp only [split] at resolved
    split at resolved
    · obtain rfl := Except.ok.inj resolved
      cases label with
      | some label => cases store <;> rfl
      | none =>
        cases store with
        | none => exact Field.eq_of_unqualified split
        | some store => exact Field.eq_of_qualified split
    · cases resolved
  | constant | function | labelled =>
    obtain rfl := Except.ok.inj resolved
    rfl

theorem Resolver.outputs_of_ofScope {datastore : Datastore} {scope : Scope} {resolver : Resolver}
    (made : Resolver.ofScope datastore scope = .ok resolver) (tables : scope.subQuery = none) :
    resolver.outputs = none := by
  unfold Resolver.ofScope at made
  rw [tables] at made
  obtain rfl := Except.ok.inj made
  rfl

/-- The statement without its filters after grouping. -/
def Statement.unrestricted (statement : Statement) : Statement :=
  { statement with havingCriteria := none, limit := none }

namespace Scope

/-- A statement over its source. -/
def lowerParts (scope : Scope) (resolver : Resolver) (source : Option TypedTable × Option Statement)
    (measures : List Measure) : Except QueryError Statement := do
  return {
    table := source.1
    subQuery := source.2
    virtualTables := scope.virtualTables
    select := ← scope.columns.mapM resolver.resolve
    rollup := ← scope.rollup.mapM resolver.resolve
    groupingSets := ← scope.groupingSets.mapM fun set => set.mapM resolver.resolve
    measures := ← measures.mapM (Measure.lower resolver)
    whereCriteria := ← Criteria.lowerOption resolver scope.whereCriteria
    havingCriteria := ← Criteria.lowerOption resolver scope.havingCriteria
    limit := scope.limit
  }

/-- What the parts of a statement are. -/
structure Lowers (scope : Scope) (resolver : Resolver) (source : Option TypedTable × Option Statement)
    (measures : List Measure) (statement : Statement) : Prop where
  select : scope.columns.mapM resolver.resolve = .ok statement.select
  rollup : scope.rollup.mapM resolver.resolve = .ok statement.rollup
  groupingSets : (scope.groupingSets.mapM fun set => set.mapM resolver.resolve) = .ok statement.groupingSets
  measures : measures.mapM (Measure.lower resolver) = .ok statement.measures
  whereCriteria : Criteria.lowerOption resolver scope.whereCriteria = .ok statement.whereCriteria
  havingCriteria : Criteria.lowerOption resolver scope.havingCriteria = .ok statement.havingCriteria
  source : (statement.table, statement.subQuery) = source
  virtualTables : statement.virtualTables = scope.virtualTables
  limit : statement.limit = scope.limit

theorem lowerParts_eq_ok {scope : Scope} {resolver : Resolver}
    {source : Option TypedTable × Option Statement} {measures : List Measure} {statement : Statement} :
    scope.lowerParts resolver source measures = .ok statement ↔
      scope.Lowers resolver source measures statement := by
  unfold lowerParts
  simp only [bind_eq_ok, pure_eq_ok, Except.ok.injEq]
  constructor
  · rintro ⟨select, select_eq, rollup, rollup_eq, sets, sets_eq, typed, typed_eq, filter, filter_eq,
      having_, having_eq, rfl⟩
    exact ⟨select_eq, rollup_eq, sets_eq, typed_eq, filter_eq, having_eq, rfl, rfl, rfl⟩
  · intro lowers
    obtain ⟨table, subQuery, virtualTables, select, rollup, groupingSets, typed, whereCriteria,
      havingCriteria, limit⟩ := statement
    obtain ⟨select_eq, rollup_eq, sets_eq, typed_eq, filter_eq, having_eq, rfl, virtual, bounded⟩ := lowers
    dsimp only at virtual bounded
    exact ⟨_, select_eq, _, rollup_eq, _, sets_eq, _, typed_eq, _, filter_eq, _, having_eq,
      by rw [virtual, bounded]⟩

theorem Lowers.withMeasures {scope : Scope} {resolver : Resolver}
    {source : Option TypedTable × Option Statement} {measures others : List Measure}
    {statement : Statement} (lowers : scope.Lowers resolver source measures statement)
    {typed : List TypedMeasure} (typed_eq : others.mapM (Measure.lower resolver) = .ok typed) :
    scope.Lowers resolver source others (statement.withMeasures typed) :=
  { lowers with measures := typed_eq }

/-- Two scopes over the same rows. -/
structure SameSource (scope other : Scope) : Prop where
  table : other.table = scope.table
  subQuery : other.subQuery = scope.subQuery
  virtualTables : other.virtualTables = scope.virtualTables

theorem SameSource.refl (scope : Scope) : scope.SameSource scope := ⟨rfl, rfl, rfl⟩

theorem SameSource.prefetch (scope : Scope) : scope.SameSource scope.prefetch := ⟨rfl, rfl, rfl⟩

/-- Scopes over the same rows have one source and one way to resolve fields. -/
theorem lower_spec {datastore : Datastore} {scope : Scope} {measures : List Measure}
    {statement : Statement} (lowered : scope.lower datastore measures = .ok statement) :
    ∃ resolver source, Resolver.ofScope datastore scope = .ok resolver ∧
      (source.1 = none ∨ scope.subQuery = none) ∧ ∀ {other : Scope}, scope.SameSource other → ∀ others,
        other.lower datastore others = other.lowerParts resolver source others := by
  obtain ⟨table, subQuery, columns, rollup, groupingSets, bucketSet, whereCriteria, havingCriteria,
    limit, virtualTables⟩ := scope
  unfold Scope.lower lowerOver at *
  have resolver_congr {other : Scope} (same : SameSource ⟨table, subQuery, columns, rollup, groupingSets,
      bucketSet, whereCriteria, havingCriteria, limit, virtualTables⟩ other) :
      Resolver.ofScope datastore other = Resolver.ofScope datastore ⟨table, subQuery, columns, rollup,
        groupingSets, bucketSet, whereCriteria, havingCriteria, limit, virtualTables⟩ := by
    unfold Resolver.ofScope
    rw [same.table, same.subQuery, same.virtualTables]
  cases table with
  | none =>
    obtain ⟨resolver, resolver_eq, lowered⟩ := bind_eq_ok.mp lowered
    cases subQuery with
    | none => cases lowered
    | some query =>
      by_cases buckets : query.bucketSet.isSome = true
      · simp [buckets] at lowered
      · simp only [buckets] at lowered
        obtain ⟨inner, inner_eq, -⟩ := bind_eq_ok.mp lowered
        refine ⟨resolver, (none, some inner), resolver_eq, .inl rfl, fun same others => ?_⟩
        simp only [resolver_congr same, same.table, same.subQuery, resolver_eq, ok_bind, buckets, inner_eq]
        rfl
  | some table =>
    obtain ⟨known, known_eq, lowered⟩ := bind_eq_ok.mp lowered
    obtain ⟨resolver, resolver_eq, lowered⟩ := bind_eq_ok.mp lowered
    cases subQuery with
    | some query => cases lowered
    | none =>
      obtain ⟨typed, typed_eq, -⟩ := bind_eq_ok.mp lowered
      refine ⟨resolver, (some typed, none), resolver_eq, .inr rfl, fun same others => ?_⟩
      simp only [lowerParts, resolver_congr same, same.table, same.subQuery, same.virtualTables,
        known_eq, resolver_eq, ok_bind, typed_eq]
      rfl

theorem lower_eq_lowerParts {datastore : Datastore} {scope : Scope} {measures : List Measure}
    {statement : Statement} (lowered : scope.lower datastore measures = .ok statement) :
    ∃ resolver source, ∀ {other : Scope}, scope.SameSource other → ∀ others,
      other.lower datastore others = other.lowerParts resolver source others := by
  obtain ⟨resolver, source, -, -, parts⟩ := lower_spec lowered
  exact ⟨resolver, source, parts⟩

/-- Without its filters after grouping, a scope has the statement without them. -/
theorem lower_prefetch {datastore : Datastore} {scope : Scope} {measures : List Measure}
    {statement : Statement} (lowered : scope.lower datastore measures = .ok statement) :
    scope.prefetch.lower datastore measures = .ok statement.unrestricted := by
  obtain ⟨resolver, source, parts⟩ := lower_eq_lowerParts lowered
  rw [parts (.refl scope), lowerParts_eq_ok] at lowered
  rw [parts (.prefetch scope), lowerParts_eq_ok]
  exact { lowered with havingCriteria := rfl, limit := rfl }

/-- Of one scope, statements for other measures are the statement with those. -/
theorem lower_eq_ok {datastore : Datastore} {scope : Scope} {measures : List Measure}
    {statement : Statement} (lowered : scope.lower datastore measures = .ok statement) :
    ∃ resolver, scope.columns.mapM resolver.resolve = .ok statement.select ∧
      measures.mapM (Measure.lower resolver) = .ok statement.measures ∧
      ∀ others typed, others.mapM (Measure.lower resolver) = .ok typed →
        scope.lower datastore others = .ok (statement.withMeasures typed) := by
  obtain ⟨resolver, source, parts⟩ := lower_eq_lowerParts lowered
  rw [parts (.refl scope), lowerParts_eq_ok] at lowered
  refine ⟨resolver, lowered.select, lowered.measures, fun others otherTyped others_eq => ?_⟩
  rw [parts (.refl scope), lowerParts_eq_ok]
  exact lowered.withMeasures others_eq

end Scope

end CubeQuery
