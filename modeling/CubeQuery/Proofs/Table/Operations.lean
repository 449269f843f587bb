import CubeQuery.Proofs.Table
import Mathlib.Data.List.InsertIdx

/-! Tables after any sequence of calls that make and change them. The columns of a table always have one
length. Its names are distinct too, but for two calls that do not look at them: a table without rows takes
the headers that it is given, and a projection takes a column as often as it is named. A column that is
refused leaves the table as it was. -/

namespace CubeQuery.Table

open Steps

/-! ### Calls -/

/-- The ways to make a table. -/
inductive Origin where
  | ofColumns (headers : List Header) (columns : List (List Value))
  | ofRows (headers : List Header) (rows : List (List Value))
  | withoutRows (headers : List Header)

/-- The ways to come from a table to the next. -/
inductive Change where
  | add (column : Column)
  | insert (index : Nat) (column : Column)
  | remove (name : String)
  | take (rows : List Nat)
  | project (names : List String)

namespace Origin

def headers : Origin → List Header
  | .ofColumns headers _ | .ofRows headers _ | .withoutRows headers => headers

def make : Origin → Except TableError Table
  | .ofColumns headers columns => Table.ofColumns headers columns
  | .ofRows headers rows => Table.ofRows headers rows
  | .withoutRows headers => .ok (Table.withoutRows headers)

/-- Each column has a header, and each header a cell in every row. -/
def Counted : Origin → Prop
  | .ofColumns headers columns => columns.length = headers.length
  | .ofRows headers rows => ∀ row ∈ rows, row.length = headers.length
  | .withoutRows _ => True

/-- A name stands twice where nothing looks for it. -/
def Repeats : Origin → Prop
  | .withoutRows headers => ¬(headers.map Header.name).Nodup
  | _ => False

end Origin

namespace Change

def apply (table : Table) : Change → Except TableError Table
  | .add column => table.addColumn column
  | .insert index column => table.insertColumn index column
  | .remove name => do return (← table.removeColumn name).2
  | .take rows => .ok (table.takeRows rows)
  | .project names => table.project names

/-- The place and the rows of the call are there. -/
def Valid (table : Table) : Change → Prop
  | .insert index _ => index ≤ table.columns.length
  | .take rows => ∀ row ∈ rows, row < table.rowCount
  | _ => True

/-- A name stands twice where nothing looks for it. -/
def Repeats : Change → Prop
  | .project names => ¬names.Nodup
  | _ => False

end Change

/-- A table that is made and then changed by valid calls, all of which succeed. -/
inductive Run (origin : Origin) : List Change → Table → Prop
  | made {table : Table} : origin.make = .ok table → Run origin [] table
  | changed {changes : List Change} {table next : Table} : Run origin changes table → (change : Change) →
    change.Valid table → change.apply table = .ok next → Run origin (changes ++ [change]) next

/-! ### Columns of one length -/

/-- All columns have the length of the first. -/
def Even (table : Table) : Prop := ∀ column ∈ table.columns, column.values.length = table.rowCount

variable {table next : Table}

theorem headers_zipWith {headers : List Header} {columns : List (List Value)}
    (even : headers.length = columns.length) :
    (List.zipWith Column.mk headers columns).map Column.header = headers :=
  List.ext_getElem (by simp [even]) (by simp)

theorem headers_of_make {origin : Origin} (made : origin.make = .ok table) : table.headers = origin.headers := by
  cases origin with
  | ofColumns headers columns =>
    obtain ⟨even, rfl, -⟩ := ofColumns_eq_ok.mp made
    exact headers_zipWith even
  | ofRows headers rows =>
    obtain ⟨-, rfl, -⟩ := ofRows_eq_ok.mp made
    exact headers_zipWith (by simp)
  | withoutRows headers =>
    obtain rfl := Except.ok.inj made
    simp [Table.headers, withoutRows, Origin.headers, Function.comp_def]

theorem counted_of_make {origin : Origin} (made : origin.make = .ok table) : origin.Counted := by
  cases origin with
  | ofColumns headers columns => exact (ofColumns_eq_ok.mp made).1.symm
  | ofRows headers rows => exact (ofRows_eq_ok.mp made).1
  | withoutRows headers => trivial

/-- Headers that do not go with the columns, or with a row, are refused. -/
theorem exists_headerCount {origin : Origin} (odd : ¬origin.Counted) :
    ∃ given, given ≠ origin.headers.length ∧ origin.make = .error (.headerCount origin.headers.length given) := by
  cases origin with
  | ofColumns headers columns =>
    refine ⟨columns.length, odd, ?_⟩
    show Table.ofColumns headers columns = _
    unfold Table.ofColumns
    rw [if_pos (Ne.symm odd)]
    rfl
  | ofRows headers rows =>
    unfold Origin.Counted at odd
    push Not at odd
    obtain ⟨row, listed, differs⟩ := odd
    obtain ⟨first, found⟩ : ∃ first, rows.find? (fun row => row.length != headers.length) = some first :=
      Option.isSome_iff_exists.mp (List.find?_isSome.mpr ⟨row, listed, by simpa using differs⟩)
    have misfit : first.length ≠ headers.length := by simpa using List.find?_some found
    refine ⟨first.length, misfit, ?_⟩
    show Table.ofRows headers rows = _
    unfold Table.ofRows
    rw [found]
    rfl
  | withoutRows headers => exact absurd trivial odd

theorem even_of_make {origin : Origin} (made : origin.make = .ok table) : table.Even := by
  cases origin with
  | ofColumns headers columns => exact (ofColumns_eq_ok.mp made).2.2.lengths
  | ofRows headers rows => exact (ofRows_eq_ok.mp made).2.2.lengths
  | withoutRows headers =>
    obtain rfl := Except.ok.inj made
    have empty : ∀ column ∈ (withoutRows headers).columns, column.values.length = 0 := by
      intro column listed
      obtain ⟨header, -, rfl⟩ := List.mem_map.mp listed
      rfl
    exact lengths_of_uniform empty

/-- A column is inserted just when its name is new and it fits the others, if there are any. -/
theorem insertColumn_eq_ok {index : Nat} {column : Column} :
    table.insertColumn index column = .ok next ↔ column.name ∉ table.names ∧
      (table.columns ≠ [] → column.values.length = table.rowCount) ∧
        next = ⟨table.columns.insertIdx index column⟩ := by
  unfold insertColumn
  by_cases taken : column.name ∈ table.names
  · simp [find?_isSome.mpr taken, taken]
  · rw [find?_eq_none.mpr taken]
    by_cases unfit : table.columns ≠ [] ∧ column.values.length ≠ table.rowCount
    · simp [unfit]
    · simp only [not_and_or, ne_eq, not_not] at unfit
      rcases unfit with empty | fits
      · simp [empty, taken, eq_comm (a := next)]
      · simp [fits, taken, eq_comm (a := next)]

/-- A column is refused for its name or else for its length. -/
theorem insertColumn_eq_error {index : Nat} {column : Column} {error : TableError} :
    table.insertColumn index column = .error error ↔
      (column.name ∈ table.names ∧ error = .duplicateColumn column.name) ∨
        (column.name ∉ table.names ∧ table.columns ≠ [] ∧ column.values.length ≠ table.rowCount ∧
          error = .columnLength column.name table.rowCount column.values.length) := by
  unfold insertColumn
  by_cases taken : column.name ∈ table.names
  · simp [find?_isSome.mpr taken, taken, eq_comm (a := error)]
  · rw [find?_eq_none.mpr taken]
    by_cases unfit : table.columns ≠ [] ∧ column.values.length ≠ table.rowCount
    · simp [unfit, taken, eq_comm (a := error)]
    · simp only [not_and_or, ne_eq, not_not] at unfit
      rcases unfit with empty | fits
      · simp [empty, taken]
      · simp [fits, taken]

theorem even_insertIdx (even : table.Even) {index : Nat} {column : Column}
    (fits : table.columns ≠ [] → column.values.length = table.rowCount) :
    Even ⟨table.columns.insertIdx index column⟩ := by
  by_cases empty : table.columns = []
  · have alone : ∀ other ∈ table.columns.insertIdx index column,
        other.values.length = column.values.length := by
      intro other listed
      rw [empty] at listed
      rcases List.eq_or_mem_of_mem_insertIdx listed with rfl | old
      · rfl
      · cases old
    exact lengths_of_uniform alone
  · have uniform : ∀ other ∈ table.columns.insertIdx index column, other.values.length = table.rowCount := by
      intro other listed
      rcases List.eq_or_mem_of_mem_insertIdx listed with rfl | old
      · exact fits empty
      · exact even other old
    exact lengths_of_uniform uniform

theorem even_eraseP (even : table.Even) (gone : Column → Bool) : Even ⟨table.columns.eraseP gone⟩ :=
  lengths_of_uniform fun column kept => even column (List.eraseP_subset kept)

theorem even_takeRows (table : Table) (rows : List Nat) : (table.takeRows rows).Even := by
  have uniform : ∀ column ∈ (table.takeRows rows).columns, column.values.length = rows.length := by
    intro column listed
    obtain ⟨whole, -, rfl⟩ := List.mem_map.mp listed
    exact List.length_map _
  exact lengths_of_uniform uniform

theorem even_of_columnsNamed (even : table.Even) {names : List String}
    (found : table.columnsNamed names = .ok next.columns) : next.Even := by
  have uniform : ∀ column ∈ next.columns, column.values.length = table.rowCount := by
    intro column listed
    obtain ⟨name, -, named⟩ := exists_of_mem_mapM found listed
    exact even column (mem_of_find? (column_eq_ok.mp named))
  exact lengths_of_uniform uniform

/-- Each call leads from columns of one length to columns of one length. -/
theorem Change.even {change : Change} (even : table.Even) (applied : change.apply table = .ok next) :
    next.Even := by
  cases change with
  | add column =>
    obtain ⟨-, fits, rfl⟩ := insertColumn_eq_ok.mp applied
    exact even_insertIdx even fits
  | insert index column =>
    obtain ⟨-, fits, rfl⟩ := insertColumn_eq_ok.mp applied
    exact even_insertIdx even fits
  | remove name =>
    obtain ⟨⟨column, rest⟩, removed, same⟩ := bind_eq_ok.mp applied
    obtain rfl := Except.ok.inj same
    obtain ⟨-, rfl⟩ := removeColumn_eq_ok.mp removed
    exact even_eraseP even _
  | take rows =>
    obtain rfl := Except.ok.inj applied
    exact even_takeRows table rows
  | project names => exact even_of_columnsNamed even (project_eq_ok.mp applied)

/-! ### Distinct names -/

theorem names_eq_map_headers (table : Table) : table.names = table.headers.map Header.name := by
  unfold names headers
  rw [List.map_map]
  rfl

/-- A table that is made has distinct names, unless its headers are taken unseen. -/
theorem distinct_of_make_iff {origin : Origin} (made : origin.make = .ok table) :
    table.names.Nodup ↔ ¬origin.Repeats := by
  cases origin with
  | ofColumns headers columns => exact iff_of_true (ofColumns_eq_ok.mp made).2.2.distinct id
  | ofRows headers rows => exact iff_of_true (ofRows_eq_ok.mp made).2.2.distinct id
  | withoutRows headers =>
    rw [names_eq_map_headers, headers_of_make made]
    exact not_not.symm

theorem distinct_insertIdx (distinct : table.names.Nodup) {index : Nat} {column : Column}
    (new : column.name ∉ table.names) : (names ⟨table.columns.insertIdx index column⟩).Nodup := by
  unfold names at *
  rcases Nat.lt_or_ge table.columns.length index with outside | inside
  · rwa [List.insertIdx_of_length_lt outside]
  · rw [((List.perm_insertIdx column table.columns inside).map Column.name).nodup_iff, List.map_cons]
    exact List.nodup_cons.mpr ⟨new, distinct⟩

/-- Each call keeps names distinct, but for a projection that repeats one. -/
theorem Change.distinct_iff {change : Change} (distinct : table.names.Nodup)
    (applied : change.apply table = .ok next) : next.names.Nodup ↔ ¬change.Repeats := by
  cases change with
  | add column =>
    obtain ⟨new, -, rfl⟩ := insertColumn_eq_ok.mp applied
    exact iff_of_true (distinct_insertIdx distinct new) id
  | insert index column =>
    obtain ⟨new, -, rfl⟩ := insertColumn_eq_ok.mp applied
    exact iff_of_true (distinct_insertIdx distinct new) id
  | remove name =>
    obtain ⟨⟨column, rest⟩, removed, same⟩ := bind_eq_ok.mp applied
    obtain rfl := Except.ok.inj same
    obtain ⟨-, rfl⟩ := removeColumn_eq_ok.mp removed
    exact iff_of_true (distinct.sublist ((List.eraseP_sublist).map Column.name)) id
  | take rows =>
    obtain rfl := Except.ok.inj applied
    rw [names_takeRows]
    exact iff_of_true distinct id
  | project names =>
    rw [names_of_project applied]
    exact not_not.symm

/-! ### Columns in place -/

/-- A call that changes a table in place. What it has done before an error stays done. -/
abbrev Edit := ExceptT TableError (StateM Table)

namespace Edit

/-- Inserts a column before a place, if nothing speaks against it. -/
def insert (index : Nat) (column : Column) : Edit Unit := do
  let table ← get
  if (table.find? column.name).isSome then throw (.duplicateColumn column.name)
  else if !table.columns.isEmpty && column.values.length != table.rowCount then
    throw (.columnLength column.name table.rowCount column.values.length)
  else set (⟨table.columns.insertIdx index column⟩ : Table)

/-- Inserts a column behind the others. -/
def add (column : Column) : Edit Unit := do
  insert (← get).columns.length column

/-- What a call comes to, and the table that it leaves. -/
def outcome (edit : Edit Unit) (table : Table) : Except TableError Unit × Table := edit.run.run table

/-- In place a column is inserted as it is into a new table, or refused without a trace. -/
theorem outcome_insert (index : Nat) (column : Column) (table : Table) :
    (insert index column).outcome table = match table.insertColumn index column with
      | .ok next => (.ok (), next)
      | .error error => (.error error, table) := by
  show ((if _ then _ else _ : Edit Unit).run).run table = _
  unfold insertColumn
  split
  · rfl
  · split <;> rfl

theorem outcome_add (column : Column) (table : Table) :
    (add column).outcome table = match table.addColumn column with
      | .ok next => (.ok (), next)
      | .error error => (.error error, table) :=
  outcome_insert table.columns.length column table

end Edit

/-! ### Whole runs -/

variable {origin : Origin} {changes : List Change}

theorem Run.even (run : Run origin changes table) : table.Even := by
  induction run with
  | made made => exact even_of_make made
  | changed _ _ _ applied ih => exact Change.even ih applied

theorem Run.distinct (run : Run origin changes table) (plain : ¬origin.Repeats)
    (each : ∀ change ∈ changes, ¬change.Repeats) : table.names.Nodup := by
  induction run with
  | made made => exact (distinct_of_make_iff made).mpr plain
  | changed _ _ _ applied ih =>
    obtain ⟨before, last⟩ := List.forall_mem_append.mp each
    exact (Change.distinct_iff (ih before) applied).mpr (last _ (List.mem_singleton_self _))

theorem Run.make_eq_ok (run : Run origin [] table) : origin.make = .ok table := by
  generalize none : ([] : List Change) = changes at run
  cases run with
  | made made => exact made
  | changed _ _ _ _ => exact absurd none.symm (List.append_ne_nil_of_right_ne_nil _ (List.cons_ne_nil _ _))

theorem Run.counted (run : Run origin changes table) : origin.Counted := by
  induction run with
  | made made => exact counted_of_make made
  | changed _ _ _ _ ih => exact ih

/-- A table that is made and changed by any calls has as many headers as columns, and columns of one length. It is
never made from headers that do not go with its columns or rows, which are refused. Its names are distinct if no call repeats one: a table that is made has distinct names unless it is made
without rows from headers that repeat one, and the next table has them unless it is a projection that repeats
one. A column that is refused in place leaves any table as it was. -/
theorem run_keeps_shape (run : Run origin changes table) :
    table.headers.length = table.columns.length ∧
      (∀ column ∈ table.columns, column.values.length = table.rowCount) ∧
      (origin.Counted ∧ ∀ other : Origin, ¬other.Counted → ∃ given, given ≠ other.headers.length ∧
        other.make = .error (.headerCount other.headers.length given)) ∧
      (¬origin.Repeats → (∀ change ∈ changes, ¬change.Repeats) → table.names.Nodup) ∧
      (changes = [] → table.headers = origin.headers ∧ (table.names.Nodup ↔ ¬origin.Repeats)) ∧
      (∀ (change : Change) (next : Table), table.names.Nodup → change.apply table = .ok next →
        (next.names.Nodup ↔ ¬change.Repeats)) ∧
      ∀ (before : Table) (edit : Edit Unit) (column : Column),
        (edit = .add column ∨ ∃ index, edit = .insert index column) →
          ∀ error after, edit.outcome before = (.error error, after) → after = before := by
  refine ⟨by simp [headers], run.even, ⟨run.counted, fun _ => exists_headerCount⟩, run.distinct, ?_, fun change next => Change.distinct_iff, ?_⟩
  · rintro rfl
    exact ⟨headers_of_make run.make_eq_ok, distinct_of_make_iff run.make_eq_ok⟩
  · rintro before edit column (rfl | ⟨index, rfl⟩) error after refused
    · rw [Edit.outcome_add] at refused
      split at refused
      · cases (Prod.mk.inj refused).1
      · exact (Prod.mk.inj refused).2.symm
    · rw [Edit.outcome_insert] at refused
      split at refused
      · cases (Prod.mk.inj refused).1
      · exact (Prod.mk.inj refused).2.symm

/-! ### Prices by scenario -/

def pricesOrigin : Origin :=
  .ofRows [.grouping "scenario" .string, .measure "p" .long]
    [[.str "base", .int 2], [.str "s1", .int 3], [.str "s2", .int 5]]

/-- Two rows of the prices, the first one twice, with a column in front. -/
def pricesChanges : List Change :=
  [.insert 0 ⟨.grouping "year" .long, [.int 2022, .int 2023, .int 2024]⟩, .take [1, 1, 0], .remove "scenario"]

theorem prices_run : Run pricesOrigin pricesChanges
    ⟨[⟨.grouping "year" .long, [.int 2023, .int 2023, .int 2022]⟩,
      ⟨.measure "p" .long, [.int 3, .int 3, .int 2]⟩]⟩ := by
  have made : Run pricesOrigin [] ⟨[⟨.grouping "scenario" .string, [.str "base", .str "s1", .str "s2"]⟩,
      ⟨.measure "p" .long, [.int 2, .int 3, .int 5]⟩]⟩ := .made rfl
  have inserted := made.changed (.insert 0 ⟨.grouping "year" .long, [.int 2022, .int 2023, .int 2024]⟩)
    (Nat.zero_le _) rfl
  have taken := inserted.changed (.take [1, 1, 0]) (by show ∀ row ∈ [1, 1, 0], row < 3; decide) rfl
  exact taken.changed (.remove "scenario") trivial rfl

/-- The prices keep their shape, and lose it in a projection that names them twice. -/
theorem prices_projected_twice : ∃ table next, Run pricesOrigin pricesChanges table ∧
    table.names = ["year", "p"] ∧ table.names.Nodup ∧ (Change.project ["p", "p"]).apply table = .ok next ∧
    ¬next.names.Nodup := by
  obtain ⟨-, -, -, distinct, -, keeps, -⟩ := run_keeps_shape prices_run
  have nodup := distinct id (by simp [pricesChanges, Change.Repeats])
  exact ⟨_, _, prices_run, rfl, nodup, rfl, fun twice =>
    (keeps (.project ["p", "p"]) _ nodup rfl).mp twice (by show ¬["p", "p"].Nodup; decide)⟩

end CubeQuery.Table
