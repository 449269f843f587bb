import CubeQuery.Proofs.Wire.Measure
import CubeQuery.Wire.Query

/-! A query is read back from its text. Its record is written part by part, and a part that is left out is
read as its default; a sub-query is read as the query around it is, one level deeper. -/

namespace CubeQuery

open Json Wire

/-! ### Tables -/

namespace TableRef

mutual

/-- Whether the criteria of all joins have a written form. -/
def isWritable : TableRef → Bool
  | ⟨_, joins⟩ => joinsAreWritable joins

def joinsAreWritable : List Join → Bool
  | [] => true
  | ⟨table, _, criteria⟩ :: rest =>
    table.isWritable && Criteria.optionIsWritable criteria && joinsAreWritable rest

end

theorem toJson_ne_null (table : TableRef) : table.toJson ≠ .null := by
  cases table
  exact nofun

mutual

theorem isWritten_toJson (table : TableRef) : table.toJson.isWritten = true := by
  cases table with
  | mk name joins => simp [toJson, isWritten, joinsWritten_toJson joins]

theorem joinsWritten_toJson (joins : List Join) : (joinsToJson joins).all Json.isWritten = true := by
  cases joins with
  | nil => rfl
  | cons join rest =>
    obtain ⟨table, type, criteria⟩ := join
    have restriction : (criteria.map Criteria.toJson).all Json.isWritten = true :=
      all_map_written Criteria.isWritten_toJson
    rw [joinsToJson, List.all_cons, joinsWritten_toJson rest, Json.isWritten, membersWritten_eq_all]
    simp only [List.all_cons, all_optionalMember, isWritten_toJson table, restriction, Json.isWritten,
      Bool.and_self]

end

theorem joinsToJson_eq_map (joins : List Join) : joinsToJson joins = joins.map fun join =>
    .obj (("table", join.table.toJson) :: ("type", .str join.type.wireName)
      :: optionalMember "joinCriteria" (join.criteria.map Criteria.toJson)) := by
  induction joins with
  | nil => rfl
  | cons join rest ih =>
    cases join
    rw [joinsToJson, ih, List.map_cons]

mutual

theorem ofJsonWithin?_toJson (table : TableRef) (writable : table.isWritable = true) {depth : Nat}
    (bound : table.toJson.height < depth) : ofJsonWithin? depth table.toJson = some table := by
  obtain ⟨depth, rfl⟩ := Nat.exists_eq_add_one_of_ne_zero (Nat.ne_zero_of_lt bound)
  cases table with
  | mk name joins =>
    have bound : (Json.arr (joinsToJson joins)).height < depth := height_lt_of_member "joins" bound (by simp)
    have listed := readList_map (joinOfJsonWithin?_toJson joins writable bound)
    rw [← joinsToJson_eq_map] at listed
    rw [ofJsonWithin?, toJson]
    exact read_one listed

theorem joinOfJsonWithin?_toJson (joins : List Join) (writable : joinsAreWritable joins = true) {depth : Nat}
    (bound : (Json.arr (joinsToJson joins)).height < depth) :
    ∀ join ∈ joins, joinOfJsonWithin? depth
      (.obj (("table", join.table.toJson) :: ("type", .str join.type.wireName)
        :: optionalMember "joinCriteria" (join.criteria.map Criteria.toJson))) = some join := by
  cases joins with
  | nil => exact nofun
  | cons join rest =>
    obtain ⟨table, type, criteria⟩ := join
    obtain ⟨first, others⟩ := Bool.and_eq_true_iff.mp writable
    obtain ⟨tableWritable, criteriaWritable⟩ := Bool.and_eq_true_iff.mp first
    have firstBound := height_lt_of_item bound List.mem_cons_self
    have restBound : (Json.arr (joinsToJson rest)).height < depth := by
      rw [joinsToJson, height, itemsHeight] at bound
      rw [height]
      omega
    refine List.forall_mem_cons.mpr ⟨?_, joinOfJsonWithin?_toJson rest others restBound⟩
    obtain ⟨depth, rfl⟩ := Nat.exists_eq_add_one_of_ne_zero (Nat.ne_zero_of_lt firstBound)
    have joined := ofJsonWithin?_toJson table tableWritable (height_lt_of_member "table" firstBound (by simp))
    have kind : JoinType.ofJson? (.str type.wireName) = some type := by
      cases type <;> rfl
    have restriction : (criteria.map Criteria.toJson).elim (some none) (nullable Criteria.ofJson?) =
        some criteria := by
      refine readOptional Criteria.toJson_ne_null fun restriction present => ?_
      rw [Option.mem_def] at present
      subst present
      exact Criteria.ofJson?_toJson criteriaWritable
    rw [joinOfJsonWithin?]
    cases criteria <;> exact read_three joined kind restriction

end

theorem ofJson?_toJson {table : TableRef} (writable : table.isWritable = true) :
    ofJson? table.toJson = some table :=
  ofJsonWithin?_toJson table writable (Nat.lt_succ_self _)

end TableRef

namespace VirtualTable

theorem isWritten_toJson (table : VirtualTable) : table.toJson.isWritten = true := by
  simpa [toJson, strings, isWritten] using fun record (_ : record ∈ table.records) (item : Json)
    (listed : item ∈ Value.listToJson record) => Value.isWritten_of_mem listed

theorem ofJson?_toJson (table : VirtualTable) : ofJson? table.toJson = some table := by
  have fields : readList readString (strings table.fields) = some table.fields :=
    readList_map fun _ _ => rfl
  have records := readList_map fun record (_ : record ∈ table.records) => Value.readList_toJson record
  rw [ofJson?, toJson]
  exact read_two fields records

end VirtualTable

namespace SortOrder

theorem isWritten_toJson (order : SortOrder) : order.toJson.isWritten = true := by
  cases order with
  | simple direction => rfl
  | explicit values =>
    simpa [toJson, tagged, isWritten] using fun (item : Json) (listed : item ∈ Value.listToJson values) =>
      Value.isWritten_of_mem listed

theorem ofJson?_toJson (order : SortOrder) : ofJson? order.toJson = some order := by
  have written := isWritten_toJson order
  rw [ofJson?]
  cases order <;> rw [toJson] at written ⊢
  case simple direction =>
    rw [untag?_tagged written (by decide) (.refl ["order"]) (by decide)]
    cases direction <;> rfl
  case explicit values =>
    rw [untag?_tagged written (by decide) (.refl ["explicit"]) (by decide)]
    exact read_one (Value.readList_toJson values)

end SortOrder

namespace Parameter

theorem isWritten_toJson (parameter : Parameter) : parameter.toJson.isWritten = true := by
  cases parameter
  rfl

theorem ofJson?_toJson (parameter : Parameter) : ofJson? parameter.toJson = some parameter := by
  obtain ⟨action⟩ := parameter
  cases action <;> rfl

end Parameter

theorem readMap_mapToJson {α : Type} {read : Json → Option α} {write : α → Json}
    (back : ∀ value, read (write value) = some value) (map : SortedMap String α) :
    readMap read (mapToJson write map) = some map := by
  have entries : (map.entries.map fun entry => (entry.1, write entry.2)).mapM
      (fun entry => (read entry.2).map (entry.1, ·)) = some (map.entries.map id) :=
    mapM_map fun entry _ => by simp [back]
  rw [List.map_id] at entries
  exact (read_one entries).trans (congrArg some (SortedMap.ofList_entries Std.TransCmp.lt_trans map))

namespace Query

/-- Whether all of a query has a written form: its measures and criteria have, and its limit is a word. -/
def isWritable : Query → Bool
  | ⟨table, subQuery, _, _, _, _, measures, whereCriteria, havingCriteria, _, limit, _, _⟩ =>
    table.all TableRef.isWritable && (match subQuery with | none => true | some query => query.isWritable)
      && measures.all Measure.isWritable && Criteria.optionIsWritable whereCriteria
      && Criteria.optionIsWritable havingCriteria && limit.all fun count => count < Nat.pow 2 64

theorem isWritable_eq (query : Query) : query.isWritable =
    (query.table.all TableRef.isWritable && query.subQuery.all isWritable
      && query.measures.all Measure.isWritable && Criteria.optionIsWritable query.whereCriteria
      && Criteria.optionIsWritable query.havingCriteria
      && query.limit.all fun count => count < Nat.pow 2 64) := by
  obtain ⟨table, subQuery, columns, rollup, groupingSets, bucketSet, measures, whereCriteria, havingCriteria,
    orders, limit, virtualTables, parameters⟩ := query
  cases subQuery <;> rfl

/-- The members of a query. -/
def parts (query : Query) : List (String × Option Json) :=
  [("table", query.table.map TableRef.toJson),
   ("subQuery", query.subQuery.map toJson),
   ("columns", some (.arr (query.columns.map Field.toJson))),
   ("rollupColumns", some (.arr (query.rollup.map Field.toJson))),
   ("groupingSets", unlessEmpty (fieldLists query.groupingSets)),
   ("columnSets", query.bucketSet.map fun set => .obj [(ColumnSetKey.bucket.wireName, set.toJson)]),
   ("measures", some (.arr (query.measures.map Measure.toJson))),
   ("whereCriteriaDto", query.whereCriteria.map Criteria.toJson),
   ("havingCriteriaDto", query.havingCriteria.map Criteria.toJson),
   ("orders", unlessEmpty (query.orders.map fun order => .arr [order.1.toJson, order.2.toJson])),
   ("limit", query.limit.map fun (count : Nat) => .int count),
   ("virtualTableDtos", unlessEmpty (query.virtualTables.map VirtualTable.toJson)),
   ("parameters",
    if query.parameters.isEmpty then none else some (mapToJson Parameter.toJson query.parameters))]

theorem toJson_eq (query : Query) : query.toJson = .obj (presentMembers query.parts) := by
  obtain ⟨table, subQuery, columns, rollup, groupingSets, bucketSet, measures, whereCriteria, havingCriteria,
    orders, limit, virtualTables, parameters⟩ := query
  have last : (if parameters.isEmpty then [] else [("parameters", mapToJson Parameter.toJson parameters)]) =
      optionalMember "parameters"
        (if parameters.isEmpty then none else some (mapToJson Parameter.toJson parameters)) := by
    split <;> rfl
  unfold toJson
  rw [last]
  simp only [listMember_eq]
  cases subQuery <;> cases limit <;> simp [presentMembers, parts, optionalMember]

theorem names_parts_nodup (query : Query) : (query.parts.map (·.1)).Nodup :=
  show ["table", "subQuery", "columns", "rollupColumns", "groupingSets", "columnSets", "measures",
    "whereCriteriaDto", "havingCriteriaDto", "orders", "limit", "virtualTableDtos", "parameters"].Nodup by
    decide

theorem toJson_ne_null (query : Query) : query.toJson ≠ .null := by
  rw [toJson_eq]
  exact nofun

theorem isWritten_count {count : Nat} (small : count < Nat.pow 2 64) : (Json.int count).isWritten = true := by
  have word : largestWord = Nat.pow 2 64 - 1 := rfl
  unfold Json.isWritten
  exact Bool.and_eq_true_iff.mpr ⟨decide_eq_true (by omega), decide_eq_true (by omega)⟩

theorem readCount_int {count : Nat} (small : count < Nat.pow 2 64) : readCount (.int count) = some count := by
  have word : (0 : Int) ≤ count ∧ (count : Int) < (Nat.pow 2 64 : Int) := by omega
  unfold readCount
  dsimp only
  rw [if_pos word, Int.toNat_natCast]

theorem isWritten_toJson (query : Query) (writable : query.isWritable = true) :
    query.toJson.isWritten = true := by
  obtain ⟨table, subQuery, columns, rollup, groupingSets, bucketSet, measures, whereCriteria, havingCriteria,
    orders, limit, virtualTables, parameters⟩ := query
  rw [isWritable_eq] at writable
  simp only [Bool.and_eq_true] at writable
  obtain ⟨⟨⟨⟨⟨-, subWritable⟩, -⟩, -⟩, -⟩, small⟩ := writable
  have fields (fields : List Field) : (Json.arr (fields.map Field.toJson)).isWritten = true :=
    isWritten_arr Field.isWritten_toJson
  have nested : (subQuery.map toJson).all Json.isWritten = true := by
    cases subQuery with
    | none => rfl
    | some query => exact isWritten_toJson query subWritable
  have sets : (bucketSet.map fun set =>
      Json.obj [(ColumnSetKey.bucket.wireName, set.toJson)]).all Json.isWritten = true :=
    all_map_written fun set => by simp [Json.isWritten, BucketSet.isWritten_toJson]
  have pairs : (Json.arr (orders.map fun order => .arr [order.1.toJson, order.2.toJson])).isWritten = true :=
    isWritten_arr fun order => by simp [Json.isWritten, Field.isWritten_toJson, SortOrder.isWritten_toJson]
  have count : (limit.map fun (count : Nat) => Json.int count).all Json.isWritten = true := by
    cases limit with
    | none => rfl
    | some count => exact isWritten_count (of_decide_eq_true small)
  have values : (mapToJson Parameter.toJson parameters).isWritten = true := by
    simp [mapToJson, Json.isWritten, Parameter.isWritten_toJson]
  have optional : (if parameters.isEmpty then none else
      some (mapToJson Parameter.toJson parameters)).all Json.isWritten = true := by
    split
    · rfl
    · exact values
  rw [toJson_eq, Json.isWritten, membersWritten_presentMembers]
  simp only [parts, fieldLists, List.all_cons, List.all_nil, Bool.and_eq_true]
  exact ⟨all_map_written TableRef.isWritten_toJson, nested, fields columns, fields rollup,
    unlessEmpty_written (isWritten_arr fields), sets, isWritten_arr Measure.isWritten_toJson,
    all_map_written Criteria.isWritten_toJson, all_map_written Criteria.isWritten_toJson,
    unlessEmpty_written pairs, count, unlessEmpty_written (isWritten_arr VirtualTable.isWritten_toJson),
    optional, trivial⟩

theorem readColumnSets_toJson (bucketSet : Option BucketSet) :
    (bucketSet.map fun set => Json.obj [(ColumnSetKey.bucket.wireName, set.toJson)]).elim (some none)
      readColumnSets = some bucketSet := by
  cases bucketSet with
  | none => rfl
  | some set => simp [readColumnSets, BucketSet.ofJson?_toJson]

theorem readParameters_toJson (parameters : SortedMap String Parameter) :
    Option.elim (if parameters.isEmpty then none else some (mapToJson Parameter.toJson parameters))
      (some SortedMap.empty) (readMap Parameter.ofJson?) = some parameters := by
  split
  · next isEmpty =>
    have none : parameters = SortedMap.empty := SortedMap.ext_entries (List.isEmpty_iff.mp isEmpty)
    rw [none]
    rfl
  · exact readMap_mapToJson Parameter.ofJson?_toJson parameters

/-- A query is read back if its sub-query is. -/
theorem ofJsonWithin?_of_subQuery {query : Query} (writable : query.isWritable = true) {depth : Nat}
    (nested : (query.subQuery.map toJson).elim (some none) (nullable (ofJsonWithin? depth)) =
      some query.subQuery) : ofJsonWithin? (depth + 1) query.toJson = some query := by
  have different := names_parts_nodup query
  rw [isWritable_eq] at writable
  simp only [Bool.and_eq_true] at writable
  obtain ⟨⟨⟨⟨⟨tableWritable, -⟩, measuresWritable⟩, whereWritable⟩, havingWritable⟩, small⟩ := writable
  have tables : (query.table.map TableRef.toJson).elim (some none) (nullable TableRef.ofJson?) =
      some query.table := by
    refine readOptional TableRef.toJson_ne_null fun table present => TableRef.ofJson?_toJson ?_
    rw [Option.mem_def] at present
    rwa [present] at tableWritable
  have criteria {criteria : Option Criteria} (writable : Criteria.optionIsWritable criteria = true) :
      (criteria.map Criteria.toJson).elim (some none) (nullable Criteria.ofJson?) = some criteria := by
    refine readOptional Criteria.toJson_ne_null fun criteria present => Criteria.ofJson?_toJson ?_
    rw [Option.mem_def] at present
    rwa [present] at writable
  have measures : readList Measure.ofJson? (.arr (query.measures.map Measure.toJson)) = some query.measures :=
    readList_map fun measure listed => Measure.ofJson?_toJson (List.all_eq_true.mp measuresWritable _ listed)
  have counts : (query.limit.map fun (count : Nat) => Json.int count).elim (some none) (nullable readCount) =
      some query.limit := by
    cases limit : query.limit with
    | none => rfl
    | some count =>
      rw [limit] at small
      have counted : nullable readCount (.int count) = some (some count) :=
        nullable_eq nofun (readCount_int (of_decide_eq_true small))
      rw [Option.map_some, Option.elim_some, counted]
  have orders := readUnlessEmpty fun order (_ : order ∈ query.orders) =>
    readPair_eq (order.1.read_toJson .text) order.2.ofJson?_toJson
  have sets := readUnlessEmpty fun set (_ : set ∈ query.groupingSets) => Field.readList_toJson .text set
  have tablesGiven := readUnlessEmpty fun table (_ : table ∈ query.virtualTables) => table.ofJson?_toJson
  have record : Record.ofJson? ["table", "subQuery", "columns", "rollupColumns", "groupingSets", "columnSets",
      "measures", "whereCriteriaDto", "havingCriteriaDto", "orders", "limit", "virtualTableDtos",
      "parameters"] (.obj (presentMembers query.parts)) = some ⟨true, presentMembers query.parts⟩ :=
    Record.ofJson?_present different
  rw [toJson_eq, ofJsonWithin?, record]
  refine (read_three (Record.withDefault_present "table" different rfl tables)
      (Record.withDefault_present "subQuery" different rfl nested)
      (Record.withDefault_always "columns" different rfl (Field.readList_toJson .text query.columns))).trans
    ((read_three (Record.withDefault_always "rollupColumns" different rfl (Field.readList_toJson .text query.rollup))
      (Record.withDefault_present "groupingSets" different rfl sets)
      (Record.withDefault_present "columnSets" different rfl (readColumnSets_toJson query.bucketSet))).trans
    ((read_three (Record.withDefault_always "measures" different rfl measures)
      (Record.withDefault_present "whereCriteriaDto" different rfl (criteria whereWritable))
      (Record.withDefault_present "havingCriteriaDto" different rfl (criteria havingWritable))).trans
    ((read_three (Record.withDefault_present "orders" different rfl orders)
      (Record.withDefault_present "limit" different rfl counts)
      (Record.withDefault_present "virtualTableDtos" different rfl tablesGiven)).trans
    ((read_one (Record.withDefault_present "parameters" different rfl
      (readParameters_toJson query.parameters))).trans ?_))))
  cases query
  rfl

theorem ofJsonWithin?_toJson (query : Query) (writable : query.isWritable = true) {depth : Nat}
    (bound : query.toJson.height < depth) : ofJsonWithin? depth query.toJson = some query := by
  obtain ⟨depth, rfl⟩ := Nat.exists_eq_add_one_of_ne_zero (Nat.ne_zero_of_lt bound)
  refine ofJsonWithin?_of_subQuery writable ?_
  obtain ⟨table, subQuery, columns, rollup, groupingSets, bucketSet, measures, whereCriteria, havingCriteria,
    orders, limit, virtualTables, parameters⟩ := query
  rw [isWritable_eq] at writable
  simp only [Bool.and_eq_true] at writable
  rw [toJson_eq] at bound
  cases subQuery with
  | none => rfl
  | some subQuery =>
    have lower : subQuery.toJson.height < depth :=
      height_lt_of_member "subQuery" bound (mem_presentMembers (by simp [parts]))
    exact nullable_eq subQuery.toJson_ne_null (ofJsonWithin?_toJson subQuery writable.1.1.1.1.2 lower)

theorem ofJson?_toJson {query : Query} (writable : query.isWritable = true) :
    ofJson? query.toJson = some query :=
  ofJsonWithin?_toJson query writable (Nat.lt_succ_self _)

/-- A query is what is read from its text. The limits are those of the format: what has no written form is
lost, text that is nested too deep is refused, only finite floats are written, and of a float so much is kept
as its literal tells. -/
theorem toText_reads_back {query : Query} (writable : query.isWritable = true)
    (depth : query.toJson.height ≤ 127) (finite : ∀ x ∈ query.toJson.floats, x.isFinite = true)
    (literals : ∀ x ∈ query.toJson.floats, Json.read? x.literal = some (.real x)) :
    ofText? query.toText = some query := by
  have back : ∀ x ∈ query.toJson.floats, Json.ReadsBack x := fun x listed =>
    ⟨finite x listed, literals x listed⟩
  unfold ofText? toText
  rw [read?_text (isWritten_toJson query writable) back depth]
  exact ofJson?_toJson writable

/-- A query over a sub-query, with a measure, a field and a condition of each kind. -/
def bandsQuery : Query :=
  let year := Field.table "sales.year" none
  let price := Field.table "sales.price" (some "p")
  let half := Value.float (.ofUnits false Double.unitsPerOne 2)
  let total := Measure.aggregated "total" price "sum"
    (some (.logical .and [.onField year (.logical .or (.single .ge (.int 2020)) (.constant .null)),
      .logical .or []]))
  let inner : Query :=
    { Query.empty with
      table := some ⟨"sales", [⟨.ofName "rates", .left,
        some (.onPair (.ofName "sales.country") (.ofName "rates.country") .eq)⟩]⟩
      measures := [.count "n", .expression "e" "sum(a) / 2", .ref "n"]
      limit := some 18446744073709551615 }
  { Query.empty with
    subQuery := some inner
    columns := [year, .constant half, .function "year(day)", .labelled "p"]
    groupingSets := [[year], []]
    bucketSet := some ⟨"band", price, [⟨"low", [.int (-1), half]⟩, ⟨"none", []⟩]⟩
    measures := [total, .binary "double" .plus total total,
      .comparison "growth" .divide total (.ofList [(year, "y-1"), (.labelled "p", "first")])
        (some (.quarter year price)) (some .bucket) (some [year, price]),
      .vector "prices" [(price, "sum")] year none]
    havingCriteria := some (.onMeasure total (.inList .in [.null, .bool true, .list [half, .str "\t\"é"]]))
    orders := [(year, .simple .desc), (price, .explicit [half, .null])]
    virtualTables := [⟨"rates", ["country", "rate"], [[.str "fr", half]]⟩]
    parameters := .ofList [("cache", .queryCache .notUse)] }

theorem bandsQuery_reads_back : ofText? bandsQuery.toText = some bandsQuery :=
  toText_reads_back (by decide +kernel) (by decide +kernel) (by decide +kernel) (by decide +kernel)

end Query

end CubeQuery
