import CubeQuery.Memory.Database
import CubeQuery.Proofs.Double.Whole
import CubeQuery.Proofs.Engine
import CubeQuery.Sample.Sales

/-! What a reader of totals sees. A database that has markers answers each row for one of the grouping
sets of a statement. Once the totals are marked, a selected cell is a total if the set of its row omits
its column or if it was one before, and all other cells stay. -/

namespace CubeQuery

open Steps

/-! ### Flags -/

/-- A number of either type. -/
inductive Value.IsNumber (number : Int) : Value → Prop where
  | int {value : Int64} (same : value.toInt = number) : IsNumber number (.int value)
  | float {value : Double} (same : value.toInt? = some number) : IsNumber number (.float value)

theorem isFlag_int (value : Int64) :
    isFlag (.int value) = decide (Double.ofInt value.toInt = .ofInt 1) := by
  simp [isFlag, Value.asDouble?]

theorem isFlag_float (value : Double) : isFlag (.float value) = decide (value = .ofInt 1) := by
  simp [isFlag, Value.asDouble?]

theorem isFlag_of_isNumber {number : Int} {value : Value} (isNumber : value.IsNumber number)
    (bit : number = 0 ∨ number = 1) : isFlag value = decide (number = 1) := by
  cases isNumber with
  | int same =>
    rw [isFlag_int, same]
    rcases bit with rfl | rfl <;> decide +kernel
  | float same =>
    rw [isFlag_float]
    rcases bit with rfl | rfl
    · refine decide_eq_false ?_
      rintro rfl
      exact absurd same (by decide +kernel)
    · refine decide_eq_true (Double.ofInt_of_toInt? same ?_).symm
      rintro rfl
      exact absurd same (by decide +kernel)

theorem cell_markFlagged {flags cells : List Value} {row : Nat} (inside : row < cells.length) :
    (markFlagged flags cells)[row]?.getD .null =
      if isFlag (flags[row]?.getD .null) then .total else cells[row]?.getD .null := by
  induction flags generalizing cells row with
  | nil => rfl
  | cons flag flags ih =>
    cases cells with
    | nil => cases inside
    | cons cell cells =>
      cases row with
      | zero => rfl
      | succ row => simpa [markFlagged] using ih (Nat.lt_of_succ_lt_succ inside)

namespace Table

/-! ### Columns by name -/

/-- The column with totals in its flagged cells. -/
def flagged (flags column : Column) : Column :=
  { column with values := markFlagged flags.values column.values }

variable {table : Table} {field name : String}

theorem find?_eraseP (other : name ≠ field) :
    (⟨table.columns.eraseP (·.name = field)⟩ : Table).find? name = table.find? name := by
  unfold find?
  generalize table.columns = columns
  induction columns with
  | nil => rfl
  | cons column rest ih =>
    rw [List.eraseP_cons]
    by_cases here : column.name = field
    · have : column.name ≠ name := fun same => other (same.symm.trans here)
      simp [here, other.symm]
    · simp [here, List.find?_cons, ih]

theorem find?_changeFirst (change : List Value → List Value) :
    (⟨changeFirst field (fun column => { column with values := change column.values })
      table.columns⟩ : Table).find? name =
      if name = field then
        (table.find? field).map fun column => { column with values := change column.values }
      else table.find? name := by
  unfold find?
  generalize table.columns = columns
  induction columns with
  | nil => simp [changeFirst]
  | cons column rest ih =>
    unfold changeFirst
    by_cases here : column.name = field
    · have changed : ({ column with values := change column.values } : Column).name = field := here
      rw [if_pos here, List.find?_cons, List.find?_cons, List.find?_cons, changed, here]
      by_cases same : name = field
      · simp [same]
      · simp [same, Ne.symm same]
    · rw [if_neg here, List.find?_cons, List.find?_cons, List.find?_cons]
      by_cases same : name = field
      · subst same
        simpa [here] using ih
      · simp [same, ih]

/-! ### Markers one by one -/

/-- A column and its marker, which can be told from each other and from the other names. -/
structure Marked (table : Table) (field : String) : Prop where
  marker : GroupingMarker.label field ∈ table.names
  column : field ∈ table.names
  unmarked : GroupingMarker.isMarker field = false
  readable : GroupingMarker.field? (GroupingMarker.label field) = some field

theorem Marked.ne_label (marked : table.Marked name) {other : String}
    (readable : GroupingMarker.field? (GroupingMarker.label other) = some other) :
    name ≠ GroupingMarker.label other := by
  rintro rfl
  have unmarked := marked.unmarked
  unfold GroupingMarker.isMarker at unmarked
  rw [readable] at unmarked
  cases unmarked

/-- One marker flags the cells of its column, and goes. -/
theorem applyMarker_label (marked : table.Marked field) :
    ∃ flags next, table.find? (GroupingMarker.label field) = some flags ∧
      table.applyMarker (GroupingMarker.label field) = (next, .ok ()) ∧
      next.names = table.names.erase (GroupingMarker.label field) ∧
      ∀ name ≠ GroupingMarker.label field, next.find? name =
        if name = field then (table.find? field).map (flagged flags) else table.find? name := by
  obtain ⟨flags, found⟩ := Option.isSome_iff_exists.mp (find?_isSome.mpr marked.marker)
  have apart := marked.ne_label marked.readable
  have removed := removeColumn_eq_ok.mpr ⟨found, rfl⟩
  have still : field ∈ (⟨table.columns.eraseP (·.name = GroupingMarker.label field)⟩ : Table).names := by
    unfold names
    rw [names_eraseP]
    exact (List.mem_erase_of_ne apart).mpr marked.column
  obtain ⟨next, mapped⟩ : ∃ next, (⟨table.columns.eraseP (·.name = GroupingMarker.label field)⟩ :
      Table).mapColumn field (markFlagged flags.values) = .ok next :=
    ⟨_, mapColumn_eq_ok.mpr ⟨still, rfl⟩⟩
  have next_eq := (mapColumn_eq_ok.mp mapped).2
  refine ⟨flags, next, found, applyMarker_eq_ok.mpr ⟨flags, _, removed, ?_⟩, ?_, fun name other => ?_⟩
  · rw [marked.readable]
    exact mapped
  · rw [next_eq]
    exact (names_changeFirst _ _ _).trans (names_eraseP _ _)
  · rw [next_eq, find?_changeFirst, find?_eraseP apart, find?_eraseP other]
    rfl

/-- The markers of some columns flag their cells and go, and leave every other column as it was. -/
theorem applyMarkers_flags {fields : List String} (distinct : fields.Nodup)
    (marked : ∀ field ∈ fields, table.Marked field) :
    ∃ next, table.applyMarkers (fields.map GroupingMarker.label) = (next, .ok ()) ∧
      next.names = table.names.diff (fields.map GroupingMarker.label) ∧
      (∀ field ∈ fields, ∃ flags, table.find? (GroupingMarker.label field) = some flags ∧
        next.find? field = (table.find? field).map (flagged flags)) ∧
      ∀ name ∉ fields, name ∉ fields.map GroupingMarker.label → next.find? name = table.find? name := by
  induction fields generalizing table with
  | nil => exact ⟨table, rfl, rfl, nofun, fun _ _ _ => rfl⟩
  | cons field rest ih =>
    obtain ⟨new, distinctRest⟩ := List.nodup_cons.mp distinct
    have here := marked field List.mem_cons_self
    have later : ∀ other ∈ rest, table.Marked other := fun other listed =>
      marked other (List.mem_cons_of_mem _ listed)
    obtain ⟨flags, middle, found, applied, names_eq, looked⟩ := applyMarker_label here
    have labels_ne : ∀ other ∈ rest, GroupingMarker.label other ≠ GroupingMarker.label field := by
      intro other listed same
      have read := (later other listed).readable
      rw [same, here.readable] at read
      exact new (Option.some.inj read ▸ listed)
    have stillMarked : ∀ other ∈ rest, middle.Marked other := by
      intro other listed
      obtain ⟨marker, column, unmarked, readable⟩ := later other listed
      refine ⟨?_, ?_, unmarked, readable⟩ <;> rw [names_eq]
      · exact (List.mem_erase_of_ne (labels_ne other listed)).mpr marker
      · exact (List.mem_erase_of_ne ((later other listed).ne_label here.readable)).mpr column
    obtain ⟨next, run, nextNames, flaggedLater, kept⟩ := ih distinctRest stillMarked
    refine ⟨next, ?_, ?_, ?_, ?_⟩
    · rw [List.map_cons]
      unfold applyMarkers
      rw [applied]
      exact run
    · rw [nextNames, names_eq, List.map_cons, List.diff_cons]
    · intro other listed
      rcases List.mem_cons.mp listed with rfl | later
      · have untouched : other ∉ rest.map GroupingMarker.label := by
          intro label
          obtain ⟨third, thirdListed, same⟩ := List.mem_map.mp label
          exact here.ne_label (marked third (List.mem_cons_of_mem _ thirdListed)).readable same.symm
        refine ⟨flags, found, ?_⟩
        rw [kept other new untouched, looked other (here.ne_label here.readable), if_pos rfl]
      · obtain ⟨otherFlags, otherFound, otherFlagged⟩ := flaggedLater other later
        have differs : other ≠ field := by
          rintro rfl
          exact new later
        have otherMarked := marked other listed
        refine ⟨otherFlags, ?_, ?_⟩
        · rwa [looked _ (labels_ne other later),
            if_neg (here.ne_label otherMarked.readable).symm] at otherFound
        · rw [otherFlagged, looked other (otherMarked.ne_label here.readable), if_neg differs]
    · intro name absent unlabelled
      obtain ⟨otherName, absentRest⟩ := not_or.mp (List.mem_cons.not.mp absent)
      obtain ⟨otherLabel, unlabelledRest⟩ := not_or.mp (List.mem_cons.not.mp unlabelled)
      rw [kept name absentRest unlabelledRest, looked name otherLabel, if_neg otherName]

theorem diff_between {front middle back : List String} (apart : ∀ name ∈ middle, name ∉ front) :
    (front ++ middle ++ back).diff middle = front ++ back := by
  induction middle with
  | nil => rw [List.append_nil, List.diff_nil]
  | cons name rest ih =>
    obtain ⟨new, apartRest⟩ := List.forall_mem_cons.mp apart
    rw [List.diff_cons, List.append_assoc, List.erase_append_right _ new, List.cons_append,
      List.erase_cons_head, ← List.append_assoc, ih apartRest]

/-- Markers that stand side by side leave what is in front of them and behind. -/
theorem applyMarkers_labels {fields front back : List String} (distinct : fields.Nodup)
    (marked : ∀ field ∈ fields, table.Marked field)
    (names : table.names = front ++ fields.map GroupingMarker.label ++ back)
    (apart : ∀ field ∈ fields, GroupingMarker.label field ∉ front) :
    ∃ next, table.applyMarkers (fields.map GroupingMarker.label) = (next, .ok ()) ∧
      next.names = front ++ back ∧
      (∀ field ∈ fields, ∃ flags, table.find? (GroupingMarker.label field) = some flags ∧
        next.find? field = (table.find? field).map (flagged flags)) ∧
      ∀ name ∉ fields, name ∉ fields.map GroupingMarker.label → next.find? name = table.find? name := by
  obtain ⟨next, run, names_eq, flagged, kept⟩ := applyMarkers_flags distinct marked
  refine ⟨next, run, ?_, flagged, kept⟩
  rw [names_eq, names, diff_between (List.forall_mem_map.mpr apart)]

/-! ### Nulls of some columns -/

theorem markNulls_markNulls (cells : List Value) : markNulls (markNulls cells) = markNulls cells := by
  unfold markNulls
  rw [List.map_map]
  refine List.map_congr_left fun cell _ => ?_
  cases cell <;> rfl

/-- The column with totals in its null cells. -/
def nullsMarked (column : Column) : Column := { column with values := markNulls column.values }

theorem cell_nullsMarked {column : Column} {row : Nat} (inside : row < column.values.length) :
    (nullsMarked column).cell row = if column.cell row = .null then .total else column.cell row := by
  unfold nullsMarked Column.cell markNulls
  rw [List.getElem?_map, List.getElem?_eq_getElem inside]
  cases column.values[row] <;> rfl

theorem cell_flagged {flags column : Column} {row : Nat} (inside : row < column.values.length) :
    (flagged flags column).cell row = if isFlag (flags.cell row) then .total else column.cell row :=
  cell_markFlagged inside

theorem find?_markNullTotals {names : List String} {next : Table}
    (marked : table.markNullTotals names = (next, .ok ())) (name : String) :
    next.find? name = if name ∈ names then (table.find? name).map nullsMarked else table.find? name := by
  induction names generalizing table with
  | nil =>
    obtain ⟨rfl, -⟩ := Prod.mk.inj marked
    rfl
  | cons first rest ih =>
    unfold markNullTotals at marked
    cases mapped : table.mapColumn first markNulls with
    | error error => simp [mapped] at marked
    | ok middle =>
      simp only [mapped] at marked
      rw [ih marked, (mapColumn_eq_ok.mp mapped).2, find?_changeFirst]
      by_cases here : name = first
      · subst here
        cases table.find? name with
        | none => simp
        | some column =>
          have twice : nullsMarked (nullsMarked column) = nullsMarked column :=
            congrArg (Column.mk _) (markNulls_markNulls _)
          by_cases again : name ∈ rest
          · simp only [again, List.mem_cons, true_or, if_true, Option.map_some]
            exact congrArg some twice
          · simp [again, nullsMarked]
      · simp [here]

end Table

namespace Statement

variable {statement : Statement} {sets : List (List TypedField)} {table : Table}

/-- A set lacks only columns that have totals. -/
theorem mem_of_mem_groupingSetList {set : List TypedField} {field : TypedField}
    (listed : set ∈ statement.groupingSetList) (selected : field ∈ statement.select)
    (plain : field ∉ statement.totalColumns) : field ∈ set := by
  unfold groupingSetList at listed
  unfold totalColumns at plain
  cases explicit : statement.groupingSets.isEmpty with
  | true =>
    simp only [explicit, Bool.not_true, Bool.false_eq_true, if_false] at listed
    obtain ⟨dropped, -, rfl⟩ := List.mem_map.mp listed
    simp only [explicit, if_true] at plain
    exact List.mem_append_left _ (List.mem_filter.mpr ⟨selected, by simpa using plain⟩)
  | false =>
    simp only [explicit, Bool.not_false, if_true] at listed
    simp only [explicit, Bool.false_eq_true, if_false] at plain
    by_contra lacking
    exact plain (List.mem_filter.mpr ⟨selected, List.any_eq_true.mpr ⟨set, listed, by simpa using lacking⟩⟩)

/-- An answer of a database that has markers. Each row is for a grouping set of the statement, and
the marker of a column is one where the set lacks the column, and zero elsewhere. -/
structure AnsweredBySets (statement : Statement) (sets : List (List TypedField)) (table : Table) :
    Prop where
  formed : table.checkColumns = .ok ()
  named : table.names = statement.columnNames true
  rows : sets.length = table.rowCount
  listed : sets ⊆ statement.groupingSetList
  flags : ∀ field ∈ statement.totalColumns, ∀ row set, sets[row]? = some set →
    ∃ marker, table.column (GroupingMarker.label field.name) = .ok marker ∧
      (marker.cell row).IsNumber (if field ∈ set then 0 else 1)

variable (answer : statement.AnsweredBySets sets table)

include answer

theorem AnsweredBySets.names_nodup : (statement.columnNames true).Nodup :=
  answer.named ▸ (Table.checkColumns_eq_ok.mp answer.formed).distinct

theorem AnsweredBySets.marked (checked : statement.check = .ok ()) (apart : statement.MarkersApart true)
    (readable : ∀ field ∈ statement.totalColumns, GroupingMarker.Readable field.name) :
    ∀ name ∈ statement.totalColumns.map TypedField.name, table.Marked name := by
  intro name listed
  obtain ⟨field, total, rfl⟩ := List.mem_map.mp listed
  have selected := List.mem_map_of_mem (f := TypedField.name) (totalColumns_subset checked total)
  have someTotals : statement.hasTotals = true := by
    simpa [hasTotals] using List.ne_nil_of_mem total
  refine ⟨?_, ?_, apart rfl someTotals _ (List.mem_append_left _ selected),
    (readable field total).field?_label⟩ <;> rw [answer.named] <;> unfold columnNames
  · exact List.mem_append_left _ (List.mem_append_right _ (List.mem_map_of_mem total))
  · exact List.mem_append_left _ (List.mem_append_left _ selected)

/-- The names that look like markers are those of the markers. -/
theorem AnsweredBySets.filter_isMarker (apart : statement.MarkersApart true)
    (totals : statement.hasTotals = true)
    (readable : ∀ field ∈ statement.totalColumns, GroupingMarker.Readable field.name) :
    table.names.filter GroupingMarker.isMarker =
      (statement.totalColumns.map TypedField.name).map GroupingMarker.label := by
  have others := apart rfl totals
  have selected : (statement.select.map TypedField.name).filter GroupingMarker.isMarker = [] :=
    List.filter_eq_nil_iff.mpr fun name listed => by
      simp [others name (List.mem_append_left _ listed)]
  have measured : (statement.measures.map TypedMeasure.label).filter GroupingMarker.isMarker = [] :=
    List.filter_eq_nil_iff.mpr fun name listed => by
      simp [others name (List.mem_append_right _ listed)]
  have markers : (statement.totalColumns.map fun field => GroupingMarker.label field.name).filter
      GroupingMarker.isMarker = statement.totalColumns.map fun field => GroupingMarker.label field.name := by
    refine List.filter_eq_self.mpr fun name listed => ?_
    obtain ⟨field, total, rfl⟩ := List.mem_map.mp listed
    unfold GroupingMarker.isMarker
    rw [(readable field total).field?_label]
    rfl
  rw [answer.named, List.map_map]
  unfold columnNames
  rw [List.filter_append, List.filter_append, if_pos rfl, selected, measured, markers, List.append_nil]
  rfl

/-- What is left once the totals are marked, if the statement has any. -/
theorem AnsweredBySets.exists_marked (checked : statement.check = .ok ()) (apart : statement.MarkersApart true)
    (readable : ∀ field ∈ statement.totalColumns, GroupingMarker.Readable field.name) :
    ∃ marked, (if statement.hasTotals then statement.markTotals true table else (table, .ok ())) =
        (marked, .ok ()) ∧
      marked.names = statement.select.map TypedField.name ++ statement.measures.map TypedMeasure.label ∧
      (∀ name ∈ statement.totalColumns.map TypedField.name, ∃ flags,
        table.find? (GroupingMarker.label name) = some flags ∧
          marked.find? name = (table.find? name).map (Table.flagged flags)) ∧
      ∀ name ∈ marked.names, name ∉ statement.totalColumns.map TypedField.name →
        marked.find? name = table.find? name := by
  have named := answer.named
  have distinct := answer.names_nodup
  unfold columnNames at named distinct
  rw [if_pos rfl] at named distinct
  cases totals : statement.hasTotals with
  | false =>
    have none : statement.totalColumns = [] := by simpa [hasTotals] using totals
    rw [none] at named ⊢
    refine ⟨table, rfl, by simpa using named, nofun, fun _ _ _ => rfl⟩
  | true =>
    have markers : (statement.totalColumns.map fun field => GroupingMarker.label field.name) =
      (statement.totalColumns.map TypedField.name).map GroupingMarker.label := by
      rw [List.map_map]
      rfl
    rw [markers] at named distinct
    obtain ⟨front, back, between⟩ := List.nodup_append.mp distinct
    obtain ⟨selectDistinct, markersDistinct, before⟩ := List.nodup_append.mp front
    obtain ⟨marked, run, names, flagged, kept⟩ := Table.applyMarkers_labels (markersDistinct.of_map _)
      (answer.marked checked apart readable) named fun field listed inFront =>
        before _ inFront _ (List.mem_map_of_mem listed) rfl
    refine ⟨marked, ?_, names, flagged, fun name listed plain => kept name plain fun label => ?_⟩
    · rw [if_pos rfl]
      unfold markTotals Table.markTotals
      rw [if_pos rfl, answer.filter_isMarker apart totals readable]
      exact run
    · rw [names] at listed
      rcases List.mem_append.mp listed with selected | measured
      · exact before _ selected _ label rfl
      · exact between _ (List.mem_append_right _ label) _ measured rfl

/-- A flagged cell is a total if the set of its row lacks the column. -/
theorem AnsweredBySets.cell_flagged {field : TypedField} {flags old : Column} {row : Nat}
    {set : List TypedField} (total : field ∈ statement.totalColumns)
    (flagsFound : table.find? (GroupingMarker.label field.name) = some flags)
    (found : table.find? field.name = some old) (at_row : sets[row]? = some set) :
    (Table.flagged flags old).cell row = if field ∈ set then old.cell row else .total := by
  obtain ⟨marker, markerFound, isNumber⟩ := answer.flags field total row set at_row
  obtain rfl : marker = flags :=
    Option.some.inj ((Table.column_eq_ok.mp markerFound).symm.trans flagsFound)
  have inside : row < old.values.length := by
    rw [(Table.checkColumns_eq_ok.mp answer.formed).lengths old (Table.mem_of_find? found), ← answer.rows]
    exact (List.getElem?_eq_some_iff.mp at_row).1
  have flag := isFlag_of_isNumber isNumber (by split <;> simp)
  unfold Column.cell at flag ⊢
  unfold Table.flagged
  rw [cell_markFlagged inside, flag]
  by_cases listed : field ∈ set <;> simp [listed]

/-- Among the selected columns those with totals are told by their names. -/
theorem AnsweredBySets.name_mem_totals (checked : statement.check = .ok ()) {field : TypedField}
    (selected : field ∈ statement.select)
    (total : field.name ∈ statement.totalColumns.map TypedField.name) : field ∈ statement.totalColumns := by
  have distinct := answer.names_nodup
  unfold columnNames at distinct
  have selectDistinct := (List.nodup_append.mp (List.nodup_append.mp distinct).1).1
  obtain ⟨other, listed, same⟩ := List.mem_map.mp total
  rwa [← List.inj_on_of_nodup_map selectDistinct (totalColumns_subset checked listed) selected same]

end Statement

/-- Where the totals of an answer are marked, the selected columns and the measures are left. A
selected cell is a total if the set of its row lacks its column or if it was one before, and all other
cells are those of the answer. -/
theorem Engine.execute_marks_omitted {engine : Engine} {statement : Statement} {sent : List String}
    {sets : List (List TypedField)} {table : Table} (checked : statement.check = .ok ())
    (marking : engine.dialect.groupingMarkers = true)
    (answered : engine.answer sent.length statement = .ok table)
    (answer : statement.AnsweredBySets sets table) (apart : statement.MarkersApart true)
    (readable : ∀ field ∈ statement.totalColumns, GroupingMarker.Readable field.name) :
    ∃ marked, engine.receive sent.length statement = .ok marked ∧
      (∀ text, engine.sql statement = .ok text →
        engine.execute sent statement = (sent ++ [text], .ok marked)) ∧
      marked.names = statement.select.map TypedField.name ++ statement.measures.map TypedMeasure.label ∧
      (∀ field ∈ statement.select, ∃ old new, table.column field.name = .ok old ∧
        marked.column field.name = .ok new ∧ new.header = old.header ∧
        new.values.length = old.values.length ∧ ∀ row set, sets[row]? = some set →
          (new.cell row = .total ↔ field ∉ set ∨ old.cell row = .total) ∧
          (new.cell row ≠ .total → new.cell row = old.cell row)) ∧
      ∀ measure ∈ statement.measures, marked.column measure.label = table.column measure.label := by
  obtain ⟨marked, run, names, flagged, kept⟩ := answer.exists_marked checked apart readable
  have received : engine.receive sent.length statement = .ok marked := by
    unfold Engine.receive
    rw [answered, ok_bind, marking]
    cases totals : statement.hasTotals with
    | false =>
      rw [totals] at run
      exact congrArg Except.ok (Prod.mk.inj run).1
    | true =>
      rw [totals, if_pos rfl] at run
      simp only [run, if_true]
      rfl
  have looked {name : String} (listed : name ∈ marked.names) : name ∈ table.names := by
    rw [names] at listed
    rw [answer.named]
    unfold Statement.columnNames
    rcases List.mem_append.mp listed with selected | measured
    · exact List.mem_append_left _ (List.mem_append_left _ selected)
    · exact List.mem_append_right _ measured
  refine ⟨marked, received, fun text written => ?_, names, fun field selected => ?_,
    fun measure measured => ?_⟩
  · unfold Engine.execute
    rw [written, received]
  · have listed : field.name ∈ marked.names :=
      names ▸ List.mem_append_left _ (List.mem_map_of_mem selected)
    obtain ⟨old, found⟩ := Option.isSome_iff_exists.mp (Table.find?_isSome.mpr (looked listed))
    by_cases total : field.name ∈ statement.totalColumns.map TypedField.name
    · obtain ⟨flags, flagsFound, new⟩ := flagged field.name total
      refine ⟨old, Table.flagged flags old, Table.column_eq_ok.mpr found,
        Table.column_eq_ok.mpr (by rw [new, found]; rfl), rfl, Table.length_markFlagged _ _,
        fun row set at_row => ?_⟩
      rw [answer.cell_flagged (answer.name_mem_totals checked selected total) flagsFound found at_row]
      by_cases lacking : field ∈ set <;> simp [lacking]
    · have plain : field ∉ statement.totalColumns := fun listed =>
        total (List.mem_map_of_mem listed)
      refine ⟨old, old, Table.column_eq_ok.mpr found, Table.column_eq_ok.mpr ?_, rfl, rfl,
        fun row set at_row => ?_⟩
      · rw [kept field.name listed total, found]
      · have inSet := Statement.mem_of_mem_groupingSetList
          (answer.listed (List.mem_of_getElem? at_row)) selected plain
        simp [inSet]
  · have listed : measure.label ∈ marked.names :=
      names ▸ List.mem_append_right _ (List.mem_map_of_mem measured)
    have plain : measure.label ∉ statement.totalColumns.map TypedField.name := by
      intro total
      have distinct := answer.names_nodup
      unfold Statement.columnNames at distinct
      obtain ⟨field, totalField, same⟩ := List.mem_map.mp total
      exact (List.nodup_append.mp distinct).2.2 _ (List.mem_append_left _
        (List.mem_map_of_mem (Statement.totalColumns_subset checked totalField))) _
        (List.mem_map_of_mem measured) same
    unfold Table.column
    rw [kept measure.label listed plain]

def scenarioField : TypedField := .column none "scenario" .string none

def categoryField : TypedField := .column none "category" .string none

/-- Sales counted by scenario and category, by scenario, and together. -/
def countedThreeWays : Statement where
  table := some (.ofName "sales")
  subQuery := none
  virtualTables := []
  select := [scenarioField, categoryField]
  rollup := []
  groupingSets := [[scenarioField, categoryField], [scenarioField], []]
  measures := [.count "sales"]
  whereCriteria := none
  havingCriteria := none
  limit := none

/-- An answer with a group whose category is null, and markers of two types. -/
def countedAnswer : Table := ⟨[
  ⟨.grouping "scenario" .string, [.str "base", .str "base", .null, .str "base"]⟩,
  ⟨.grouping "category" .string, [.str "food", .null, .null, .null]⟩,
  ⟨.grouping "___grouping___scenario___" .long, [.int 0, .int 0, .int 1, .int 0]⟩,
  ⟨.grouping "___grouping___category___" .double,
    [.float .negativeZero, .float .zero, .float (.ofInt 1), .float (.ofInt 1)]⟩,
  ⟨.measure "sales" .long, [.int 3, .int 1, .int 4, .int 4]⟩]⟩

def countedSets : List (List TypedField) :=
  [[scenarioField, categoryField], [scenarioField, categoryField], [], [scenarioField]]

def countingEngine : Engine := ⟨.duckdb, Sales.datastore, fun _ _ => .ok countedAnswer⟩

theorem countedAnswer_bySets : countedThreeWays.AnsweredBySets countedSets countedAnswer where
  formed := by decide
  named := by decide
  rows := rfl
  listed := by decide
  flags := by
    have integers : ∀ row set, countedSets[row]? = some set →
        ((Column.cell ⟨.grouping "___grouping___scenario___" .long,
          [.int 0, .int 0, .int 1, .int 0]⟩ row)).IsNumber (if scenarioField ∈ set then 0 else 1) := by
      rintro (_ | _ | _ | _ | row) set at_row <;> cases at_row <;> exact .int (by decide)
    have floats : ∀ row set, countedSets[row]? = some set →
        ((Column.cell ⟨.grouping "___grouping___category___" .double,
          [.float .negativeZero, .float .zero, .float (.ofInt 1), .float (.ofInt 1)]⟩ row)).IsNumber
            (if categoryField ∈ set then 0 else 1) := by
      rintro (_ | _ | _ | _ | row) set at_row <;> cases at_row <;> exact .float (by decide +kernel)
    intro field total row set at_row
    have either : field = scenarioField ∨ field = categoryField := by
      have all : countedThreeWays.totalColumns = [scenarioField, categoryField] := by decide
      simpa [all] using total
    rcases either with rfl | rfl
    · exact ⟨_, rfl, integers row set at_row⟩
    · exact ⟨_, rfl, floats row set at_row⟩

def countedSql : String :=
  "select \"scenario\", \"category\", grouping(\"scenario\"), grouping(\"category\"), " ++
    "count(*) as \"sales\" from \"sales\" group by grouping sets(" ++
    "(\"scenario\",\"category\"), (\"scenario\"), ())"

/-- The category of the group without one stays null, and those of the two larger groups are totals. -/
theorem countedAnswer_marked :
    countedThreeWays.check = .ok () ∧ countedThreeWays.MarkersApart true ∧
      (∀ field ∈ countedThreeWays.totalColumns, GroupingMarker.Readable field.name) ∧
      ∃ marked, countingEngine.execute [] countedThreeWays = ([countedSql], .ok marked) ∧
        marked.names = ["scenario", "category", "sales"] ∧
        (∃ new, marked.column "category" = .ok new ∧
          new.cell 0 = .str "food" ∧ new.cell 1 = .null ∧ new.cell 2 = .total ∧ new.cell 3 = .total) ∧
        marked.column "sales" = countedAnswer.column "sales" := by
  have checked : countedThreeWays.check = .ok () := by decide
  have apart : countedThreeWays.MarkersApart true := by
    intro _ _
    decide
  have readable : ∀ field ∈ countedThreeWays.totalColumns, GroupingMarker.Readable field.name := by
    unfold GroupingMarker.Readable
    decide
  have marking : countingEngine.dialect.groupingMarkers = true := rfl
  have answered : countingEngine.answer ([] : List String).length countedThreeWays = .ok countedAnswer := rfl
  have written : countingEngine.sql countedThreeWays = .ok countedSql := by decide +kernel
  obtain ⟨marked, -, executed, names, columns, measures⟩ :=
    Engine.execute_marks_omitted checked marking answered countedAnswer_bySets apart readable
  obtain ⟨old, new, oldFound, newFound, -, -, cells⟩ := columns categoryField (by decide)
  obtain rfl := Except.ok.inj (oldFound.symm.trans (show countedAnswer.column "category" =
    .ok ⟨.grouping "category" .string, [.str "food", .null, .null, .null]⟩ by decide))
  have kept (row : Nat) (set : List TypedField) (at_row : countedSets[row]? = some set)
      (listed : categoryField ∈ set) (other : Column.cell ⟨.grouping "category" .string,
        [.str "food", .null, .null, .null]⟩ row ≠ .total) :
      new.cell row = Column.cell ⟨.grouping "category" .string,
        [.str "food", .null, .null, .null]⟩ row := by
    refine (cells row set at_row).2 fun total => ?_
    rcases (cells row set at_row).1.mp total with lacking | same
    · exact lacking listed
    · exact other same
  refine ⟨checked, apart, readable, marked, executed countedSql written, names, ⟨new, newFound, ?_, ?_, ?_, ?_⟩,
    measures (.count "sales") (List.mem_singleton_self _)⟩
  · exact kept 0 _ rfl (by decide) (by decide)
  · exact kept 1 _ rfl (by decide) (by decide)
  · exact (cells 2 _ rfl).1.mpr (.inl (by decide))
  · exact (cells 3 _ rfl).1.mpr (.inl (by decide))

end CubeQuery
