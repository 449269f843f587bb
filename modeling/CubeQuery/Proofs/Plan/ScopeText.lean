import CubeQuery.Proofs.Cache.Entries
import CubeQuery.Proofs.Json.Text
import CubeQuery.Proofs.Plan.Tasks
import CubeQuery.Proofs.Wire.Query

/-! A scope is told by its text: every member is written and read back, and a value is told by its text. So
where digests tell texts apart, scopes with one key are equal, and two queries of different shapes share
neither a planned statement nor what is cached. -/

namespace CubeQuery

open Json Wire

/-! ### Members -/

namespace Scope

/-- What is never written as `null` is told from what is absent. -/
theorem orNull_map_inj {α : Type} {write : α → Json} {read : Json → Option α} (present : ∀ v, write v ≠ .null)
    {one other : Option α} (back : ∀ v ∈ one, read (write v) = some v)
    (otherBack : ∀ v ∈ other, read (write v) = some v)
    (same : orNull (one.map write) = orNull (other.map write)) : one = other := by
  cases one with
  | none =>
    cases other with
    | none => rfl
    | some w => exact absurd same.symm (present w)
  | some v =>
    cases other with
    | none => exact absurd same (present v)
    | some w =>
      have read := back v rfl
      rw [show write v = write w from same, otherBack w rfl] at read
      exact read.symm

/-- Whether all of a scope has a written form: its criteria have, and its limit is a word. -/
def isWritable (scope : Scope) : Bool :=
  scope.table.all TableRef.isWritable && scope.subQuery.all Query.isWritable
    && Criteria.optionIsWritable scope.whereCriteria && Criteria.optionIsWritable scope.havingCriteria
    && scope.limit.all fun count => count < Nat.pow 2 64

theorem orNull_written {json : Option Json} (written : json.all Json.isWritten = true) :
    (orNull json).isWritten = true := by
  cases json with
  | none => rfl
  | some json => exact written

theorem isWritten_toJson {scope : Scope} (writable : scope.isWritable = true) : scope.toJson.isWritten = true := by
  unfold isWritable at writable
  simp only [Bool.and_eq_true] at writable
  obtain ⟨⟨⟨⟨-, subWritable⟩, -⟩, -⟩, small⟩ := writable
  have fields (fields : List Field) : (Json.arr (fields.map Field.toJson)).isWritten = true :=
    isWritten_arr Field.isWritten_toJson
  have nested : (scope.subQuery.map Query.toJson).all Json.isWritten = true := by
    cases present : scope.subQuery with
    | none => rfl
    | some query =>
      rw [present] at subWritable
      exact query.isWritten_toJson subWritable
  have sets : (Json.obj (scope.bucketSet.toList.map fun set =>
      (ColumnSetKey.bucket.wireName, set.toJson))).isWritten = true := by
    simp [Json.isWritten, BucketSet.isWritten_toJson]
  have count : (orNull (scope.limit.map fun count => .int count)).isWritten = true := by
    cases limit : scope.limit with
    | none => rfl
    | some count =>
      rw [limit] at small
      exact Query.isWritten_count (of_decide_eq_true small)
  have groups : (Json.arr (Query.fieldLists scope.groupingSets)).isWritten = true := isWritten_arr fields
  unfold toJson
  rw [Json.isWritten, membersWritten_eq_all]
  simp only [List.all_cons, List.all_nil, Bool.and_eq_true]
  exact ⟨orNull_written (all_map_written TableRef.isWritten_toJson), orNull_written nested, fields scope.columns,
    fields scope.rollup, groups, sets, orNull_written (all_map_written Criteria.isWritten_toJson),
    orNull_written (all_map_written Criteria.isWritten_toJson), count,
    isWritten_arr VirtualTable.isWritten_toJson, trivial⟩

/-- What is read from an array tells what it was written for. -/
theorem arr_map_inj {α : Type} {write : α → Json} {read : Json → Option α} (back : ∀ v, read (write v) = some v)
    {one other : List α} (same : Json.arr (one.map write) = .arr (other.map write)) : one = other := by
  have listed := readList_map fun v (_ : v ∈ one) => back v
  rw [same, readList_map fun v (_ : v ∈ other) => back v] at listed
  exact (Option.some.inj listed).symm

theorem toJson_injective {one other : Scope} (writable : one.isWritable = true)
    (otherWritable : other.isWritable = true) (same : one.toJson = other.toJson) : one = other := by
  unfold isWritable at writable otherWritable
  simp only [Bool.and_eq_true] at writable otherWritable
  obtain ⟨⟨⟨⟨tableWritable, subWritable⟩, whereWritable⟩, havingWritable⟩, -⟩ := writable
  obtain ⟨⟨⟨⟨otherTable, otherSub⟩, otherWhere⟩, otherHaving⟩, -⟩ := otherWritable
  have written {α : Type} {isWritable : α → Bool} {option : Option α} (writable : option.all isWritable = true) :
      ∀ v ∈ option, isWritable v = true := by
    rintro v ⟨⟩
    exact writable
  have criteriaWritten {criteria : Option Criteria} (writable : Criteria.optionIsWritable criteria = true) :
      ∀ v ∈ criteria, Criteria.ofJson? v.toJson = some v := by
    rintro v ⟨⟩
    exact Criteria.ofJson?_toJson writable
  unfold toJson at same
  rw [Json.obj.injEq] at same
  simp only [List.cons.injEq, Prod.mk.injEq, true_and, and_true] at same
  obtain ⟨table, subQuery, columns, rollup, sets, buckets, whereCriteria, havingCriteria, limit, tables⟩ := same
  have table := orNull_map_inj TableRef.toJson_ne_null
    (fun v present => TableRef.ofJson?_toJson (written tableWritable v present))
    (fun v present => TableRef.ofJson?_toJson (written otherTable v present)) table
  have subQuery := orNull_map_inj Query.toJson_ne_null
    (fun v present => Query.ofJson?_toJson (written subWritable v present))
    (fun v present => Query.ofJson?_toJson (written otherSub v present)) subQuery
  have whereCriteria := orNull_map_inj Criteria.toJson_ne_null (criteriaWritten whereWritable)
    (criteriaWritten otherWhere) whereCriteria
  have havingCriteria := orNull_map_inj Criteria.toJson_ne_null (criteriaWritten havingWritable)
    (criteriaWritten otherHaving) havingCriteria
  have columns := arr_map_inj (Field.read_toJson .text) columns
  have rollup := arr_map_inj (Field.read_toJson .text) rollup
  have sets : one.groupingSets = other.groupingSets :=
    arr_map_inj (fun set => Field.readList_toJson .text set) sets
  have tables := arr_map_inj VirtualTable.ofJson?_toJson tables
  have limit : one.limit = other.limit := by
    cases first : one.limit <;> cases second : other.limit <;> rw [first, second] at limit
    case none.some | some.none => cases limit
    case some.some => exact congrArg some (Int.ofNat.inj (Json.int.inj limit))
  have buckets : one.bucketSet = other.bucketSet := by
    cases first : one.bucketSet <;> cases second : other.bucketSet <;> rw [first, second] at buckets
    case none.some | some.none => cases buckets
    case some.some set otherSet =>
      have sets : set.toJson = otherSet.toJson := by simpa using buckets
      have read := set.ofJson?_toJson
      rw [sets, otherSet.ofJson?_toJson] at read
      exact read.symm
  cases one
  cases other
  rw [Scope.mk.injEq]
  exact ⟨table, subQuery, columns, rollup, sets, buckets, whereCriteria, havingCriteria, limit, tables⟩

/-- A scope that is told by its text: all of it has a written form, and its floats have literals. -/
structure HasText (scope : Scope) : Prop where
  writable : scope.isWritable = true
  finite : ∀ x ∈ scope.toJson.floats, x.isFinite = true

theorem text_eq_iff {one other : Scope} (told : one.HasText) (otherTold : other.HasText) :
    one.toJson.text = other.toJson.text ↔ one = other := by
  refine ⟨fun same => ?_, fun same => same ▸ rfl⟩
  exact toJson_injective told.writable otherTold.writable (text_injective (isWritten_toJson told.writable)
    (isWritten_toJson otherTold.writable) told.finite otherTold.finite same)

end Scope

/-! ### Keys -/

/-- No collision: the digests of two texts are equal for equal texts only. -/
def Sha256.TellsApart (one other : String) : Prop := hex one = hex other → one = other

theorem Scope.key_eq_iff {one other : Scope} (told : one.HasText) (otherTold : other.HasText)
    (apart : Sha256.TellsApart one.toJson.text other.toJson.text) : one.key = other.key ↔ one = other := by
  refine ⟨fun same => ?_, fun same => same ▸ rfl⟩
  exact (Scope.text_eq_iff told otherTold).mp (apart (ScopeKey.mk.inj same))

/-- Queries that differ in their measures, orders and parameters at most. -/
structure Query.SameShape (query other : Query) : Prop where
  /-- The table with its joins. -/
  table : query.table = other.table
  subQuery : query.subQuery = other.subQuery
  columns : query.columns = other.columns
  rollup : query.rollup = other.rollup
  groupingSets : query.groupingSets = other.groupingSets
  bucketSet : query.bucketSet = other.bucketSet
  whereCriteria : query.whereCriteria = other.whereCriteria
  havingCriteria : query.havingCriteria = other.havingCriteria
  limit : query.limit = other.limit
  virtualTables : query.virtualTables = other.virtualTables

theorem Scope.ofQuery_eq_iff {query other : Query} :
    Scope.ofQuery query = Scope.ofQuery other ↔ query.SameShape other := by
  unfold Scope.ofQuery
  rw [Scope.mk.injEq]
  constructor
  · rintro ⟨table, subQuery, columns, rollup, sets, buckets, criteria, having', limit, tables⟩
    exact ⟨table, subQuery, columns, rollup, sets, buckets, criteria, having', limit, tables⟩
  · rintro ⟨table, subQuery, columns, rollup, sets, buckets, criteria, having', limit, tables⟩
    exact ⟨table, subQuery, columns, rollup, sets, buckets, criteria, having', limit, tables⟩

/-- The statement that is planned for a query's own scope is planned under its key and no other. -/
theorem Plan.exists_root_task_iff {engine : Engine} {query : Query} {plan : Plan} {tasks : List Plan.ScopeTask}
    (built : Plan.build query = .ok plan) (planned : engine.tasks plan = .ok tasks) (key : ScopeKey) :
    (∃ task ∈ tasks, task.scope = Scope.ofQuery query ∧ task.key = key) ↔ (Scope.ofQuery query).key = key := by
  have wellBuilt := Plan.wellBuilt_of_build built
  constructor
  · rintro ⟨task, listed, own, rfl⟩
    rw [((Plan.tasks_spec wellBuilt planned).2 task listed).1.keyed, own]
  · rintro rfl
    obtain ⟨task, first, root, own⟩ := Plan.exists_root_task wellBuilt planned
    exact ⟨task, List.mem_of_mem_head? first, own, root.trans wellBuilt.root⟩

/-- An entry that is found under a key is found under no other. -/
theorem MemoryCache.find?_eq_iff {cache : MemoryCache} {key other : ScopeKey} {measure : Measure}
    {entry : CacheEntry} (found : cache.find? (.of key measure) = some entry) :
    cache.find? (.of other measure) = some entry ↔ key = other := by
  constructor
  · intro otherFound
    have same := (mem_of_find? found).2.symm.trans (mem_of_find? otherFound).2
    exact congrArg CacheKey.scope same
  · rintro rfl
    exact found

/-- Scopes are told by their texts. So where digests tell these apart, queries have one key, one planned
statement and one entry for a measure if, and only if, they are of one shape, whatever they measure. -/
theorem Scope.told_by_text {one other : Scope} (told : one.HasText) (otherTold : other.HasText) :
    (one.toJson.text = other.toJson.text ↔ one = other) ∧
      (Sha256.TellsApart one.toJson.text other.toJson.text →
        ∀ query second : Query, Scope.ofQuery query = one → Scope.ofQuery second = other →
          (one.key = other.key ↔ query.SameShape second) ∧
          (∀ (engine : Engine) (plan : Plan) (tasks : List Plan.ScopeTask), Plan.build query = .ok plan →
            engine.tasks plan = .ok tasks →
              ((∃ task ∈ tasks, task.scope = one ∧ task.key = other.key) ↔ query.SameShape second)) ∧
          ∀ (cache : MemoryCache) (measure : Measure) (entry : CacheEntry),
            cache.find? (.of one.key measure) = some entry →
              (cache.find? (.of other.key measure) = some entry ↔ query.SameShape second)) := by
  refine ⟨Scope.text_eq_iff told otherTold, ?_⟩
  rintro apart query second rfl rfl
  have keys : (Scope.ofQuery query).key = (Scope.ofQuery second).key ↔ query.SameShape second :=
    (Scope.key_eq_iff told otherTold apart).trans Scope.ofQuery_eq_iff
  refine ⟨keys, fun engine plan tasks built planned => ?_, fun cache measure entry found => ?_⟩
  · exact (Plan.exists_root_task_iff built planned _).trans keys
  · exact (MemoryCache.find?_eq_iff found).trans keys

/-- The sum of the prices below a bound. -/
def cheapTotal (bound : Double) : Query :=
  { Query.empty with
    table := some (.ofName "sales")
    whereCriteria := some (.onField (.ofName "price") (.single .lt (.float bound)))
    measures := [.aggregated "total" (.ofName "price") "sum" none] }

/-- How many prices are below a bound. -/
def cheapCount (bound : Double) : Query := { cheapTotal bound with measures := [.count "n"] }

theorem cheapTotal_hasText {bound : Double} (finite : bound.isFinite = true) :
    (Scope.ofQuery (cheapTotal bound)).HasText where
  writable := rfl
  finite := by
    have floats : (Scope.ofQuery (cheapTotal bound)).toJson.floats = [bound] := rfl
    rw [floats]
    exact List.forall_mem_singleton.mpr finite

/-- A price of so many halves. -/
def halves (n : Nat) : Double := .ofUnits false (n * Double.unitsPerOne) 2

/-- Sums and counts below 2.5 have one scope and share what is cached, and sums below 3.5 have another one. -/
theorem cheapTotal_told :
    (cheapTotal (halves 5)).measures ≠ (cheapCount (halves 5)).measures ∧
      (Scope.ofQuery (cheapTotal (halves 5))).key = (Scope.ofQuery (cheapCount (halves 5))).key ∧
      (∀ (cache : MemoryCache) (measure : Measure) (entry : CacheEntry),
        cache.find? (.of (Scope.ofQuery (cheapTotal (halves 5))).key measure) = some entry →
          cache.find? (.of (Scope.ofQuery (cheapCount (halves 5))).key measure) = some entry) ∧
      (Scope.ofQuery (cheapTotal (halves 5))).toJson.text ≠ (Scope.ofQuery (cheapTotal (halves 7))).toJson.text := by
  have told : (Scope.ofQuery (cheapTotal (halves 5))).HasText := cheapTotal_hasText (by decide +kernel)
  have otherTold : (Scope.ofQuery (cheapTotal (halves 7))).HasText := cheapTotal_hasText (by decide +kernel)
  have different : Scope.ofQuery (cheapTotal (halves 5)) ≠ Scope.ofQuery (cheapTotal (halves 7)) := by
    decide +kernel
  have sameShape : (cheapTotal (halves 5)).SameShape (cheapCount (halves 5)) :=
    ⟨rfl, rfl, rfl, rfl, rfl, rfl, rfl, rfl, rfl, rfl⟩
  obtain ⟨keys, -, cached⟩ := (Scope.told_by_text told told).2 (fun _ => rfl) (cheapTotal (halves 5))
    (cheapCount (halves 5)) rfl rfl
  refine ⟨nofun, keys.mpr sameShape, fun cache measure entry found => ?_, fun same => ?_⟩
  · exact (cached cache measure entry found).mpr sameShape
  · exact different ((Scope.told_by_text told otherTold).1.mp same)

end CubeQuery
