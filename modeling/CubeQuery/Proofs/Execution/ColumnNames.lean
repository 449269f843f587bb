import CubeQuery.Proofs.Execution.MarkedTotals
import CubeQuery.Proofs.Execution.Vectors
import CubeQuery.Proofs.Plan.Lowering

/-! The names of columns, from the fields of a scope to the table that its result is read from. A field
keeps its name when it is resolved, except a label over a sub-query. Where no label is lost the scope's
names are those of the statement, of the answer and of the table with its totals and buckets. -/

namespace CubeQuery

open Steps

/-! ### Resolved fields -/

/-- Over a sub-query a column goes by the name of the output that it reads. -/
def Scope.dropsLabel (scope : Scope) : Field → Bool
  | .table fullName (some label) => scope.subQuery.isSome && label != fullName
  | _ => false

variable {datastore : Datastore} {scope : Scope} {resolver : Resolver}

theorem Resolver.isSome_outputs (made : Resolver.ofScope datastore scope = .ok resolver) :
    resolver.outputs.isSome = scope.subQuery.isSome := by
  unfold Resolver.ofScope at made
  cases sub : scope.subQuery with
  | none =>
    rw [sub] at made
    obtain rfl := Except.ok.inj made
    rfl
  | some query =>
    rw [sub] at made
    obtain ⟨outputs, offered, made⟩ := bind_eq_ok.mp made
    obtain ⟨columns, -, offered⟩ := bind_eq_ok.mp offered
    obtain rfl := Except.ok.inj made
    obtain rfl := Except.ok.inj offered
    rfl

theorem Scope.name_of_resolve_iff (made : Resolver.ofScope datastore scope = .ok resolver) {field : Field}
    {typed : TypedField} (resolved : resolver.resolve field = .ok typed) :
    typed.name = field.name ↔ scope.dropsLabel field = false := by
  have inner := Resolver.isSome_outputs made
  cases offered : resolver.outputs with
  | none =>
    rw [offered] at inner
    refine iff_of_true (Resolver.name_of_resolve offered resolved) ?_
    unfold dropsLabel
    split
    · rw [← inner]
      rfl
    · rfl
  | some outputs =>
    rw [offered] at inner
    unfold Resolver.resolve at resolved
    cases field with
    | table fullName label =>
      simp only [offered] at resolved
      split at resolved
      · obtain rfl := Except.ok.inj resolved
        cases label with
        | none => exact iff_of_true rfl rfl
        | some label =>
          unfold dropsLabel
          rw [← inner]
          simpa [TypedField.name, Field.name] using eq_comm
      · cases resolved
    | constant | function | labelled =>
      obtain rfl := Except.ok.inj resolved
      exact iff_of_true rfl rfl

theorem Scope.map_name_iff (made : Resolver.ofScope datastore scope = .ok resolver) {fields : List Field}
    {typed : List TypedField} (resolved : fields.mapM resolver.resolve = .ok typed) :
    typed.map TypedField.name = fields.map Field.name ↔ ∀ field ∈ fields, scope.dropsLabel field = false := by
  have each := mapM_eq_ok.mp resolved
  clear resolved
  induction each with
  | nil => simp
  | cons first _ ih =>
    rw [List.map_cons, List.map_cons, List.cons.injEq, List.forall_mem_cons]
    exact and_congr (Scope.name_of_resolve_iff made first) ih

/-! ### Names of marked columns -/

namespace Table

variable {table next : Table}

theorem names_applyMarker {marker : String} (applied : table.applyMarker marker = (next, .ok ())) :
    next.names = table.names.erase marker := by
  obtain ⟨flags, rest, removed, changed⟩ := applyMarker_eq_ok.mp applied
  have rest_names : rest.names = table.names.erase marker := by
    rw [(removeColumn_eq_ok.mp removed).2]
    exact names_eraseP _ _
  rw [← rest_names]
  cases read : GroupingMarker.field? marker with
  | none =>
    rw [read] at changed
    rw [changed]
  | some field =>
    rw [read] at changed
    rw [(mapColumn_eq_ok.mp changed).2]
    exact names_changeFirst _ _ _

theorem names_applyMarkers {markers : List String} (applied : table.applyMarkers markers = (next, .ok ())) :
    next.names = table.names.diff markers := by
  induction markers generalizing table with
  | nil =>
    obtain ⟨rfl, -⟩ := Prod.mk.inj applied
    rfl
  | cons marker rest ih =>
    unfold applyMarkers at applied
    rcases first : table.applyMarker marker with ⟨middle, outcome⟩
    rw [first] at applied
    cases outcome with
    | error error => simp at applied
    | ok => rw [ih applied, names_applyMarker first, List.diff_cons]

theorem names_markNullTotals {names : List String} (marked : table.markNullTotals names = (next, .ok ())) :
    next.names = table.names := by
  induction names generalizing table with
  | nil =>
    obtain ⟨rfl, -⟩ := Prod.mk.inj marked
    rfl
  | cons name rest ih =>
    unfold markNullTotals at marked
    cases mapped : table.mapColumn name markNulls with
    | error error => simp [mapped] at marked
    | ok middle =>
      simp only [mapped] at marked
      rw [ih marked, (mapColumn_eq_ok.mp mapped).2]
      exact names_changeFirst _ _ _

/-- Marking takes the markers away, if there are any, and leaves the other columns. -/
theorem names_markTotals {groupingMarkers : Bool} {totals : List String} (distinct : table.names.Nodup)
    (marked : table.markTotals groupingMarkers totals = (next, .ok ())) :
    next.names = if groupingMarkers then table.names.filter (!GroupingMarker.isMarker ·) else table.names := by
  unfold markTotals at marked
  cases groupingMarkers with
  | false => exact names_markNullTotals marked
  | true =>
    rw [if_pos rfl] at marked ⊢
    rw [names_applyMarkers marked, distinct.sdiff_eq_filter]
    refine List.filter_congr fun name listed => ?_
    simp [listed]

end Table

/-! ### Answers -/

/-- What a database is trusted with: an answer has the columns that are asked for, in order, and shows
those of the measures as measures. -/
structure Statement.Answered (statement : Statement) (groupingMarkers : Bool) (table : Table) : Prop where
  formed : table.checkColumns = .ok ()
  named : table.names = statement.columnNames groupingMarkers
  measures : ∀ column ∈ table.columns,
    column.header.isMeasure = true ↔ column.name ∈ statement.measures.map TypedMeasure.label

namespace Statement

variable {statement : Statement} {groupingMarkers : Bool} {table : Table}

/-- Without totals no column is a marker. -/
theorem Answered.names_of_no_totals (answered : statement.Answered groupingMarkers table)
    (plain : statement.hasTotals = false) :
    table.names = statement.select.map TypedField.name ++ statement.measures.map TypedMeasure.label := by
  have none : statement.totalColumns = [] := by simpa [hasTotals] using plain
  rw [answered.named]
  unfold columnNames
  simp [none]

/-- Where markers are told apart, those of the totals are all there are. -/
theorem filter_columnNames (apart : statement.MarkersApart groupingMarkers) (totals : statement.hasTotals = true)
    (readable : groupingMarkers = true → ∀ field ∈ statement.totalColumns, GroupingMarker.Readable field.name) :
    (if groupingMarkers then (statement.columnNames groupingMarkers).filter (!GroupingMarker.isMarker ·)
      else statement.columnNames groupingMarkers) =
      statement.select.map TypedField.name ++ statement.measures.map TypedMeasure.label := by
  cases groupingMarkers with
  | false => simp [columnNames]
  | true =>
    have plain := apart rfl totals
    have selected : ∀ name ∈ statement.select.map TypedField.name, (!GroupingMarker.isMarker name) = true :=
      fun name listed => by rw [plain name (List.mem_append_left _ listed)]; rfl
    have measured : ∀ name ∈ statement.measures.map TypedMeasure.label,
        (!GroupingMarker.isMarker name) = true :=
      fun name listed => by rw [plain name (List.mem_append_right _ listed)]; rfl
    have markers : ∀ name ∈ statement.totalColumns.map fun field => GroupingMarker.label field.name,
        ¬(!GroupingMarker.isMarker name) = true := by
      intro name listed
      obtain ⟨field, total, rfl⟩ := List.mem_map.mp listed
      unfold GroupingMarker.isMarker
      rw [(readable rfl field total).field?_label]
      simp
    unfold columnNames
    rw [if_pos rfl, if_pos rfl, List.filter_append, List.filter_append, List.filter_eq_self.mpr selected,
      List.filter_eq_nil_iff.mpr markers, List.filter_eq_self.mpr measured, List.append_nil]

end Statement

/-- The grouping columns are those in front of the measures. -/
theorem Table.groupingNames_of_measures {table : Table} {front measures : List String}
    (distinct : table.names.Nodup) (names : table.names = front ++ measures)
    (told : ∀ column ∈ table.columns, column.header.isMeasure = true ↔ column.name ∈ measures) :
    table.groupingNames = front := by
  have filtered : table.groupingNames = table.names.filter fun name => name ∉ measures := by
    unfold groupingNames groupingColumns Table.names
    rw [List.filter_map]
    refine congrArg _ (List.filter_congr fun column listed => ?_)
    have here := told column listed
    cases kind : column.header.isMeasure <;> simp [kind] at here <;> simp [here]
  rw [names] at distinct
  obtain ⟨-, -, apart⟩ := List.nodup_append'.mp distinct
  rw [filtered, names, List.filter_append, List.filter_eq_self.mpr, List.filter_eq_nil_iff.mpr, List.append_nil]
  · simp
  · exact fun name listed => by simpa using apart listed

/-- What is received has the selected columns in front of the measures. -/
theorem Statement.Answered.exists_receive {engine : Engine} {number : Nat} {statement : Statement} {table : Table}
    (answered : statement.Answered engine.dialect.groupingMarkers table)
    (answer : engine.answer number statement = .ok table) (checked : statement.check = .ok ())
    (apart : statement.MarkersApart engine.dialect.groupingMarkers)
    (readable : engine.dialect.groupingMarkers = true →
      ∀ field ∈ statement.totalColumns, GroupingMarker.Readable field.name) :
    ∃ received, engine.receive number statement = .ok received ∧
      received.names = statement.select.map TypedField.name ++ statement.measures.map TypedMeasure.label ∧
      received.groupingNames = statement.select.map TypedField.name := by
  have distinct := (Table.checkColumns_eq_ok.mp answered.formed).distinct
  unfold Engine.receive
  rw [answer, ok_bind]
  cases totals : statement.hasTotals with
  | false =>
    have names := answered.names_of_no_totals totals
    exact ⟨table, rfl, names, Table.groupingNames_of_measures distinct names answered.measures⟩
  | true =>
    have selected : statement.select.map TypedField.name ⊆ table.names := by
      rw [answered.named]
      unfold Statement.columnNames
      exact fun name listed => List.mem_append_left _ (List.mem_append_left _ listed)
    obtain ⟨next, marked, markedFrom, -⟩ :=
      Statement.exists_markTotals checked apart totals distinct selected fun _ listed => answered.named ▸ listed
    -- Marking removes the columns named like markers, which are those of the totals and no others.
    have names : next.names =
        statement.select.map TypedField.name ++ statement.measures.map TypedMeasure.label := by
      rw [Table.names_markTotals distinct marked, answered.named,
        Statement.filter_columnNames apart totals readable]
    have measures : ∀ column ∈ next.columns,
        column.header.isMeasure = true ↔ column.name ∈ statement.measures.map TypedMeasure.label := by
      intro column listed
      obtain ⟨old, oldListed, header, -⟩ := markedFrom.columns column listed
      unfold Column.name
      rw [header]
      exact answered.measures old oldListed
    have nextDistinct := distinct.sublist markedFrom.names
    refine ⟨next, ?_, names, Table.groupingNames_of_measures nextDistinct names measures⟩
    rw [if_pos rfl]
    simp only [marked]
    rfl

/-! ### Tables of a scope -/

/-- A table in which whatever a scope looks up by name is found. -/
structure Table.Offers (table : Table) (scope : Scope) (measures : List Measure) : Prop where
  grouping : table.groupingNames = scope.groupingNames
  column : ∀ name ∈ scope.groupingNames ++ measures.map Measure.label, ∃ column, table.column name = .ok column
  project : ∀ requested ⊆ measures.map Measure.label, ∃ projected,
    table.project (scope.groupingNames ++ requested) = .ok projected

theorem Table.offers_of_names {table : Table} {scope : Scope} {measures : List Measure}
    (grouping : table.groupingNames = scope.groupingNames) (stored : measures.map Measure.label ⊆ table.names) :
    table.Offers scope measures := by
  have known : scope.groupingNames ++ measures.map Measure.label ⊆ table.names :=
    List.append_subset.mpr ⟨grouping ▸ table.groupingNames_subset, stored⟩
  refine ⟨grouping, fun name listed => ?_, fun requested among => ?_⟩
  · obtain ⟨column, found⟩ := Option.isSome_iff_exists.mp (Table.find?_isSome.mpr (known listed))
    exact ⟨column, Table.column_eq_ok.mpr found⟩
  · obtain ⟨grouped, measured⟩ := List.append_subset.mp known
    obtain ⟨columns, found⟩ :=
      Table.exists_columnsNamed (List.append_subset.mpr ⟨grouped, List.Subset.trans among measured⟩)
    exact ⟨⟨columns⟩, by unfold Table.project; rw [found]; rfl⟩

/-- Buckets add their own column in front, and every other name stays. -/
theorem Table.offers_of_expandBuckets {table expanded : Table} {scope : Scope} {measures : List Measure}
    (names : table.names = scope.columns.map Field.name ++ measures.map Measure.label)
    (grouping : table.groupingNames = scope.columns.map Field.name)
    (ran : table.expandBuckets scope = .ok expanded) : expanded.Offers scope measures := by
  have stored : measures.map Measure.label ⊆ table.names := names ▸ List.subset_append_right _ _
  obtain ⟨none, rfl⟩ | ⟨set, source, some, -, -, rfl⟩ := Table.expandBuckets_eq_ok.mp ran
  · refine Table.offers_of_names ?_ stored
    unfold Scope.groupingNames
    rw [grouping, none]
    rfl
  · refine Table.offers_of_names ?_ fun name listed => List.mem_cons_of_mem _ ?_
    · unfold Scope.groupingNames
      rw [Table.groupingNames_withBuckets, grouping, some]
      rfl
    · rw [← table.names_takeRows] at stored
      exact stored listed

/-- A statement whose columns, and their markers, are named after the columns of its scope. -/
structure Statement.NamedAfter (statement : Statement) (scope : Scope) (resolver : Resolver)
    (measures : List Measure) : Prop where
  headers : ∀ groupingMarkers, statement.columnNames groupingMarkers =
    scope.columns.map Field.name ++
      (if groupingMarkers then
        statement.totalColumns.map fun field => GroupingMarker.label field.name else []) ++
      measures.map Measure.label
  totals : statement.check = .ok () → ∀ field ∈ statement.totalColumns, ∃ column ∈ scope.columns,
    resolver.resolve column = .ok field ∧ field.name = column.name

namespace Scope

variable {measures : List Measure} {statement : Statement}

/-- The parts of a statement whose columns and measures are named. -/
theorem named_parts (made : Resolver.ofScope datastore scope = .ok resolver)
    (lowered : scope.lower datastore measures = .ok statement) :
    scope.columns.mapM resolver.resolve = .ok statement.select ∧
      statement.measures.map TypedMeasure.label = measures.map Measure.label := by
  obtain ⟨other, source, otherMade, -, parts⟩ := lower_spec lowered
  obtain rfl := Except.ok.inj (otherMade.symm.trans made)
  rw [parts (.refl scope), lowerParts_eq_ok] at lowered
  exact ⟨lowered.select, map_eq_of_mapM lowered.measures fun _ _ _ _ step => Measure.label_of_lower step⟩

theorem namedAfter (made : Resolver.ofScope datastore scope = .ok resolver)
    (lowered : scope.lower datastore measures = .ok statement)
    (kept : ∀ column ∈ scope.columns, scope.dropsLabel column = false) :
    statement.NamedAfter scope resolver measures := by
  obtain ⟨select, labels⟩ := named_parts made lowered
  refine ⟨fun groupingMarkers => ?_, fun checked field total => ?_⟩
  · unfold Statement.columnNames
    rw [(map_name_iff made select).mpr kept, labels]
  · obtain ⟨column, listed, resolved⟩ :=
      exists_of_mem_mapM select (Statement.totalColumns_subset checked total)
    exact ⟨column, listed, resolved, (name_of_resolve_iff made resolved).mpr (kept column listed)⟩

/-- A field keeps its name unless its label is dropped. So the columns of a statement have the names of
its scope exactly if no column drops its label. Then so do the headers of the answer and the markers of
totals, and in the table that is received every name of the scope is found. -/
theorem resolution_keeps_names (made : Resolver.ofScope datastore scope = .ok resolver) :
    (∀ field typed, resolver.resolve field = .ok typed →
      (typed.name = field.name ↔ scope.dropsLabel field = false)) ∧
    ∀ measures statement, scope.lower datastore measures = .ok statement →
      (statement.select.map TypedField.name = scope.columns.map Field.name ↔
        ∀ column ∈ scope.columns, scope.dropsLabel column = false) ∧
      ((∀ column ∈ scope.columns, scope.dropsLabel column = false) →
        statement.NamedAfter scope resolver measures ∧
        ∀ (engine : Engine) number table, engine.answer number statement = .ok table →
          statement.Answered engine.dialect.groupingMarkers table → statement.check = .ok () →
          statement.MarkersApart engine.dialect.groupingMarkers →
          (engine.dialect.groupingMarkers = true →
            ∀ field ∈ statement.totalColumns, GroupingMarker.Readable field.name) →
          ∃ received, engine.receive number statement = .ok received ∧
            ∀ expanded, received.expandBuckets scope = .ok expanded → expanded.Offers scope measures) := by
  refine ⟨fun field typed => name_of_resolve_iff made, fun measures statement lowered => ?_⟩
  obtain ⟨select, labels⟩ := named_parts made lowered
  refine ⟨map_name_iff made select, fun kept => ⟨namedAfter made lowered kept, ?_⟩⟩
  intro engine number table answer answered checked apart readable
  obtain ⟨received, ran, names, grouping⟩ := answered.exists_receive answer checked apart readable
  have selected := (map_name_iff made select).mpr kept
  rw [selected, labels] at names
  rw [selected] at grouping
  exact ⟨received, ran, fun expanded => Table.offers_of_expandBuckets names grouping⟩

end Scope

/-! ### Averages over a sub-query -/

def pricesByScenario : Query :=
  { Query.empty with
    table := some (.ofName "sales")
    columns := [.ofName "scenario"]
    measures := [.aggregated "p" (.ofName "price") "sum" none] }

def averagePrice : Measure := .aggregated "a" (.ofName "p") "avg" none

/-- The scenarios of an inner query, with a label or without, and all of them together. -/
def scenariosOf (label : Option String) : Scope :=
  .ofQuery { Query.empty with
    subQuery := some pricesByScenario
    columns := [.table "scenario" label]
    rollup := [.table "scenario" label] }

/-- A label is lost, and with it the name that the result is read by. -/
example : ((scenariosOf (some "s")).lower Sales.datastore [averagePrice]).map
    (fun statement => statement.select.map TypedField.name) = .ok ["scenario"] ∧
    (scenariosOf (some "s")).groupingNames = ["s"] :=
  ⟨rfl, rfl⟩

def pricesStatement : Statement where
  table := some (.ofName "sales")
  subQuery := none
  virtualTables := []
  select := [.column none "scenario" .string none]
  rollup := []
  groupingSets := []
  measures := [.aggregated "p" (.column none "price" .double none) "sum" none]
  whereCriteria := none
  havingCriteria := none
  limit := none

def averagesStatement : Statement where
  table := none
  subQuery := some pricesStatement
  virtualTables := []
  select := [.labelled "scenario" .string]
  rollup := [.labelled "scenario" .string]
  groupingSets := []
  measures := [.aggregated "a" (.labelled "p" .unknown) "avg" none]
  whereCriteria := none
  havingCriteria := none
  limit := none

def averagesAnswer : Table := ⟨[
  ⟨.grouping "scenario" .string, [.str "base", .str "s1", .null]⟩,
  ⟨.grouping "___grouping___scenario___" .long, [.int 0, .int 0, .int 1]⟩,
  ⟨.measure "a" .double, [.int 10, .int 12, .int 11]⟩]⟩

def averagesEngine : Engine := ⟨.duckdb, Sales.datastore, fun _ _ => .ok averagesAnswer⟩

theorem averages_keep_names :
    (scenariosOf none).lower Sales.datastore [averagePrice] = .ok averagesStatement ∧
      averagesStatement.columnNames true = ["scenario", "___grouping___scenario___", "a"] ∧
      ∃ received, averagesEngine.receive 0 averagesStatement = .ok received ∧
        received.Offers (scenariosOf none) [averagePrice] := by
  obtain ⟨resolver, made⟩ : ∃ resolver,
      Resolver.ofScope Sales.datastore (scenariosOf none) = .ok resolver :=
    ⟨⟨Sales.datastore, [], [], some [⟨"scenario", .string⟩, ⟨"p", .unknown⟩]⟩, rfl⟩
  have lowered : (scenariosOf none).lower Sales.datastore [averagePrice] = .ok averagesStatement := rfl
  have kept : ∀ column ∈ (scenariosOf none).columns, (scenariosOf none).dropsLabel column = false := by decide
  have checked : averagesStatement.check = .ok () := by decide
  have answered : averagesStatement.Answered true averagesAnswer := ⟨by decide, by decide, by decide⟩
  have apart : averagesStatement.MarkersApart true := fun _ _ => by decide
  have readable : ∀ field ∈ averagesStatement.totalColumns, GroupingMarker.Readable field.name := by
    unfold GroupingMarker.Readable
    decide
  obtain ⟨-, statements⟩ := Scope.resolution_keeps_names made
  obtain ⟨-, tables⟩ := statements [averagePrice] averagesStatement lowered
  obtain ⟨named, received⟩ := tables kept
  obtain ⟨received, ran, offers⟩ :=
    received averagesEngine 0 averagesAnswer rfl answered checked apart fun _ => readable
  exact ⟨lowered, named.headers true, received, ran, offers received rfl⟩

end CubeQuery
