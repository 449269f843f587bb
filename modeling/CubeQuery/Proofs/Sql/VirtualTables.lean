import CubeQuery.Proofs.Sql.Writing

/-!
Virtual tables as they are written: each record is a select, and a table is the union of its records.
The select list of a record pairs its values with the fields of the table from the left, and ends
where either of them ends, since the lengths of the records are never compared with the fields.
-/

namespace CubeQuery

open Steps

/-! ### Select lists of records -/

/-- A value that is selected under a name. -/
structure Projection where
  value : Value
  name : String

namespace Projection

variable {fields : List String} {record : List Value} {items : List Projection}

def sql (dialect : Dialect) (item : Projection) : String :=
  plainLiteral item.value ++ " as " ++ dialect.fieldName item.name

def selectSql (dialect : Dialect) (items : List Projection) : String :=
  "select " ++ ", ".intercalate (items.map (sql dialect))

/-- The values of a record under the names of the fields in their places, as far as both go. -/
structure FitsOver (fields : List String) (record : List Value) (items : List Projection) : Prop where
  names : items.map name = fields.take record.length
  values : items.map value = record.take fields.length

/-- Every field once, in the order of declaration, and every value of the record. -/
structure Complete (fields : List String) (record : List Value) (items : List Projection) : Prop where
  names : items.map name = fields
  values : items.map value = record

theorem fitsOver_zipWith (fields : List String) (record : List Value) :
    FitsOver fields record (List.zipWith mk record fields) := by
  induction record generalizing fields with
  | nil => exact ⟨rfl, List.take_nil.symm⟩
  | cons value record ih =>
    cases fields with
    | nil => exact ⟨rfl, rfl⟩
    | cons field fields =>
      obtain ⟨names, values⟩ := ih fields
      exact ⟨congrArg (field :: ·) names, congrArg (value :: ·) values⟩

theorem recordSql_eq (dialect : Dialect) (fields : List String) (record : List Value) :
    recordSql dialect fields record = selectSql dialect (List.zipWith mk record fields) := by
  unfold recordSql selectSql
  rw [List.zip, List.map_zipWith, List.map_zipWith]
  rfl

/-- Nothing is left out exactly when a record has a value for each field and no more. -/
theorem FitsOver.complete_iff (fits : FitsOver fields record items) :
    Complete fields record items ↔ record.length = fields.length := by
  constructor
  · intro complete
    calc
      record.length = (items.map value).length := by rw [complete.values]
      _ = (items.map name).length := by rw [List.length_map, List.length_map]
      _ = fields.length := by rw [complete.names]
  · intro same
    constructor
    · rw [fits.names, same, List.take_length]
    · rw [fits.values, ← same, List.take_length]

theorem forall₂_complete_iff {records : List (List Value)} {members : List (List Projection)}
    (fits : List.Forall₂ (FitsOver fields) records members) :
    List.Forall₂ (Complete fields) records members ↔
      ∀ record ∈ records, record.length = fields.length := by
  induction fits with
  | nil => exact iff_of_true .nil fun _ listed => absurd listed List.not_mem_nil
  | cons first _ ih => rw [List.forall₂_cons, List.forall_mem_cons, ih, first.complete_iff]

end Projection

/-! ### Unions of records -/

/-- The select lists whose union is a table. -/
structure UnionTable where
  name : String
  members : List (List Projection)

namespace UnionTable

def sql (dialect : Dialect) (table : UnionTable) : String :=
  dialect.cteName table.name ++ " as ("
    ++ " union all ".intercalate (table.members.map (Projection.selectSql dialect)) ++ ")"

def clause (dialect : Dialect) : List UnionTable → String
  | [] => ""
  | tables => "with " ++ ", ".intercalate (tables.map (sql dialect)) ++ " "

end UnionTable

namespace VirtualTable

/-- Each record, in order, is one member of the union, with the relation to the fields that is asked
for. -/
structure UnitedBy (fit : List String → List Value → List Projection → Prop) (table : VirtualTable)
    (union : UnionTable) : Prop where
  name : union.name = table.name
  members : List.Forall₂ (fit table.fields) table.records union.members

/-- Every record has as many values as the table has fields. -/
def IsRectangular (table : VirtualTable) : Prop :=
  ∀ record ∈ table.records, record.length = table.fields.length

instance (table : VirtualTable) : Decidable table.IsRectangular :=
  inferInstanceAs (Decidable (∀ record ∈ table.records, record.length = table.fields.length))

/-- The union that is written for a table. -/
def union (table : VirtualTable) : UnionTable where
  name := table.name
  members := table.records.map fun record => List.zipWith Projection.mk record table.fields

theorem unitedBy_union (table : VirtualTable) : table.UnitedBy Projection.FitsOver table.union := by
  constructor
  · rfl
  · apply List.forall₂_map_right_iff.mpr
    exact List.forall₂_same.mpr fun record _ => Projection.fitsOver_zipWith table.fields record

theorem sql_eq_union (dialect : Dialect) (table : VirtualTable) :
    table.sql dialect = table.union.sql dialect := by
  have members : table.records.map (recordSql dialect table.fields) =
      table.union.members.map (Projection.selectSql dialect) := by
    unfold union
    rw [List.map_map]
    exact List.map_congr_left fun record _ => Projection.recordSql_eq dialect table.fields record
  unfold VirtualTable.sql UnionTable.sql
  rw [members]
  rfl

theorem withClause_eq_clause (dialect : Dialect) (tables : List VirtualTable) :
    withClause dialect tables = UnionTable.clause dialect (tables.map union) := by
  cases tables with
  | nil => rfl
  | cons table tables =>
    have texts : (table :: tables).map (VirtualTable.sql dialect) =
        ((table :: tables).map union).map (UnionTable.sql dialect) := by
      rw [List.map_map]
      exact List.map_congr_left fun table _ => sql_eq_union dialect table
    calc
      withClause dialect (table :: tables) =
          "with " ++ ", ".intercalate ((table :: tables).map (VirtualTable.sql dialect)) ++ " " := rfl
      _ = UnionTable.clause dialect ((table :: tables).map union) := by rw [texts]; rfl

theorem UnitedBy.complete_iff {table : VirtualTable} {union : UnionTable}
    (united : table.UnitedBy Projection.FitsOver union) :
    table.UnitedBy Projection.Complete union ↔ table.IsRectangular := by
  constructor
  · intro complete
    exact (Projection.forall₂_complete_iff united.members).mp complete.members
  · intro rectangular
    exact ⟨united.name, (Projection.forall₂_complete_iff united.members).mpr rectangular⟩

end VirtualTable

/-! ### Statements and the statements within them -/

namespace Statement

variable {dialect : Dialect} {statement outer inner : Statement} {text : String}

/-- A statement is within itself and within every statement that selects from one it is within. -/
inductive Within : Statement → Statement → Prop where
  | self (statement : Statement) : Within statement statement
  | nested {inner middle outer : Statement} (deeper : Within inner middle)
      (source : outer.subQuery = some middle) : Within inner outer

/-- Nothing but the clause itself depends on the virtual tables, and they are never refused. -/
theorem exists_after_withClause (written : statement.sql dialect = .ok text) :
    ∃ rest, text = withClause dialect statement.virtualTables ++ rest ∧
      ∀ tables, { statement with virtualTables := tables }.sql dialect =
        .ok (withClause dialect tables ++ rest) := by
  obtain ⟨checked, selected, source, others, selection, read, clauses, rfl⟩ := sql_eq_ok_iff.mp written
  refine ⟨"select " ++ selected ++ " from " ++ source ++ others, rfl, fun tables => ?_⟩
  exact sql_eq_ok_iff.mpr ⟨checked, selected, source, others, selection, read, clauses, rfl⟩

/-- A sub-query is written in parentheses inside the text of its statement. -/
theorem exists_text_around {nested : Statement} (written : statement.sql dialect = .ok text)
    (source : statement.subQuery = some nested) :
    ∃ before nestedText after, nested.sql dialect = .ok nestedText ∧
      text = before ++ nestedText ++ after := by
  obtain ⟨-, selected, _, others, -, read, -, rfl⟩ := sql_eq_ok_iff.mp written
  unfold sourceSql at read
  rw [source] at read
  obtain ⟨nestedText, nestedWritten, enclosed⟩ := bind_eq_ok.mp read
  refine ⟨withClause dialect statement.virtualTables ++ "select " ++ selected ++ " from (", nestedText,
    ")" ++ others, nestedWritten, ?_⟩
  rw [← Except.ok.inj enclosed]
  simp only [String.append_assoc]
  rfl

theorem Within.exists_text_around (within : inner.Within outer) (written : outer.sql dialect = .ok text) :
    ∃ before innerText after, inner.sql dialect = .ok innerText ∧
      text = before ++ innerText ++ after := by
  induction within generalizing text with
  | self => exact ⟨"", text, "", written, by rw [String.empty_append, String.append_empty]⟩
  | nested deeper source ih =>
    obtain ⟨before, nestedText, after, nested, rfl⟩ := Statement.exists_text_around written source
    obtain ⟨left, innerText, right, found, rfl⟩ := ih nested
    exact ⟨before ++ left, innerText, right ++ after, found, by simp only [String.append_assoc]⟩

/-- In every statement that is written, and in those nested within it, each virtual table is the union
of one select for each of its records, in order: the values of the record under the names of the
fields, as far as both go. Every member has all fields and keeps all values exactly when the records
are as long as the list of fields, and a statement with other records is written all the same. -/
theorem virtual_tables_selected_as_far_as_given (within : inner.Within outer)
    (written : outer.sql dialect = .ok text) :
    ∃ before rest after unions,
      text = before ++ (UnionTable.clause dialect unions ++ rest) ++ after ∧
      List.Forall₂ (VirtualTable.UnitedBy Projection.FitsOver) inner.virtualTables unions ∧
      (List.Forall₂ (VirtualTable.UnitedBy Projection.Complete) inner.virtualTables unions ↔
        ∀ table ∈ inner.virtualTables, table.IsRectangular) ∧
      ∀ tables, { inner with virtualTables := tables }.sql dialect =
        .ok (UnionTable.clause dialect (tables.map VirtualTable.union) ++ rest) := by
  obtain ⟨before, innerText, after, innerWritten, rfl⟩ := within.exists_text_around written
  obtain ⟨rest, rfl, replaced⟩ := exists_after_withClause innerWritten
  refine ⟨before, rest, after, inner.virtualTables.map VirtualTable.union, ?_, ?_, ?_, fun tables => ?_⟩
  · rw [VirtualTable.withClause_eq_clause]
  · apply List.forall₂_map_right_iff.mpr
    exact List.forall₂_same.mpr fun table _ => table.unitedBy_union
  · rw [List.forall₂_map_right_iff, List.forall₂_same]
    exact forall₂_congr fun table _ => table.unitedBy_union.complete_iff
  · rw [replaced tables, VirtualTable.withClause_eq_clause]

/-- Rates by currency, the second without a rate. -/
def ratesGiven : VirtualTable where
  name := "rates"
  fields := ["currency", "rate"]
  records := [[.str "EUR", .int 1], [.str "USD"]]

def ratesRead : Statement where
  table := some ⟨"rates", true, []⟩
  subQuery := none
  virtualTables := [ratesGiven]
  select := [.column none "currency" .string none]
  rollup := []
  groupingSets := []
  measures := []
  whereCriteria := none
  havingCriteria := none
  limit := none

def ratesCounted : Statement :=
  { ratesRead with table := none, subQuery := some ratesRead, virtualTables := [], select := [],
                   measures := [.count "n"] }

def ratesCountedText : String :=
  "select count(*) as \"n\" from (with \"rates\" as (select 'EUR' as \"currency\", 1 as \"rate\""
    ++ " union all select 'USD' as \"currency\") select \"currency\" from \"rates\""
    ++ " group by \"currency\")"

/-- The second select lacks the rate, and the statement is written. -/
theorem ratesCounted_selects_as_given :
    ratesRead.Within ratesCounted ∧ ratesCounted.sql .duckdb = .ok ratesCountedText ∧
      ∃ before rest after unions,
        ratesCountedText = before ++ (UnionTable.clause .duckdb unions ++ rest) ++ after ∧
        List.Forall₂ (VirtualTable.UnitedBy Projection.FitsOver) [ratesGiven] unions ∧
        (List.Forall₂ (VirtualTable.UnitedBy Projection.Complete) [ratesGiven] unions ↔
          ∀ table ∈ [ratesGiven], table.IsRectangular) ∧
        ∀ tables, { ratesRead with virtualTables := tables }.sql .duckdb =
          .ok (UnionTable.clause .duckdb (tables.map VirtualTable.union) ++ rest) := by
  have within : ratesRead.Within ratesCounted := .nested (.self ratesRead) rfl
  have written : ratesCounted.sql .duckdb = .ok ratesCountedText := by rfl
  exact ⟨within, written, virtual_tables_selected_as_far_as_given within written⟩

example : ¬ratesGiven.IsRectangular := by decide

end Statement

end CubeQuery
