import CubeQuery.Sql.Dialect
import Mathlib.Logic.Function.Basic

/-! Quoted names are read back as they are. A mark within a name is written twice, and a reader takes the first
mark that stands alone as the end, so that no name ends early or goes on into what follows it. -/

namespace CubeQuery

/-! ### Identifiers -/

namespace Quoting

/-- The characters of an identifier up to its last mark, and the text behind it. Two marks are one character. -/
def readTail? (mark : Char) : List Char → Option (List Char × List Char)
  | [] => none
  | [c] => if c = mark then some ([], []) else none
  | c :: next :: rest =>
    if c ≠ mark then (readTail? mark (next :: rest)).map (Prod.map (c :: ·) id)
    else if next = mark then (readTail? mark rest).map (Prod.map (mark :: ·) id)
    else some ([], next :: rest)

/-- The identifier at the start of a text, and the text behind it. -/
def readIdentifier? (mark : Char) : List Char → Option (List Char × List Char)
  | [] => none
  | c :: rest => if c = mark then readTail? mark rest else none

variable {mark : Char} {text name rest : List Char}

theorem readTail?_cons {c : Char} (plain : c ≠ mark) (text : List Char) :
    readTail? mark (c :: text) = (readTail? mark text).map (Prod.map (c :: ·) id) := by
  cases text with
  | nil => exact if_neg plain
  | cons next rest => exact if_pos plain

theorem readTail?_mark (apart : rest.head? ≠ some mark) : readTail? mark (mark :: rest) = some ([], rest) := by
  cases rest with
  | nil => exact if_pos rfl
  | cons next rest =>
    have different : next ≠ mark := fun same => apart (congrArg some same)
    unfold readTail?
    rw [if_neg (not_not_intro rfl), if_neg different]

theorem readTail?_mark_mark (text : List Char) :
    readTail? mark (mark :: mark :: text) = (readTail? mark text).map (Prod.map (mark :: ·) id) := by
  rw [readTail?, if_neg (not_not_intro rfl), if_pos rfl]

theorem readTail?_double (name : List Char) (apart : rest.head? ≠ some mark) :
    readTail? mark (double mark name ++ mark :: rest) = some (name, rest) := by
  induction name with
  | nil => exact readTail?_mark apart
  | cons c name ih =>
    unfold double
    by_cases marked : c = mark
    · rw [if_pos marked, List.cons_append, List.cons_append, readTail?_mark_mark, ih, marked]
      rfl
    · rw [if_neg marked, List.cons_append, readTail?_cons marked, ih]
      rfl

theorem head?_nil_ne (c : Char) : ([] : List Char).head? ≠ some c := nofun

theorem readIdentifier?_quoteChars (name : List Char) (apart : rest.head? ≠ some mark) :
    readIdentifier? mark ((Quoting.marked mark).quoteChars name ++ rest) = some (name, rest) := by
  have text_eq : (Quoting.marked mark).quoteChars name ++ rest = mark :: (double mark name ++ mark :: rest) := by
    simp [quoteChars]
  rw [text_eq, readIdentifier?, if_pos rfl, readTail?_double name apart]

theorem quoteChars_injective (quoting : Quoting) : Function.Injective quoting.quoteChars := by
  cases quoting with
  | bare => exact fun _ _ same => same
  | marked mark =>
    intro first second same
    have alone (name : List Char) :
        readIdentifier? mark ((Quoting.marked mark).quoteChars name) = some (name, []) := by
      simpa using readIdentifier?_quoteChars name (head?_nil_ne mark)
    have read := alone first
    rw [same, alone second] at read
    exact (congrArg Prod.fst (Option.some.inj read)).symm

/-! ### Paths -/

theorem length_of_readTail? (read : readTail? mark text = some (name, rest)) : rest.length < text.length := by
  fun_induction readTail? mark text generalizing name rest with
  | case1 => cases read
  | case2 => cases read; exact Nat.zero_lt_one
  | case3 => cases read
  | case4 c next others plain ih =>
    obtain ⟨⟨inner, after⟩, found, same⟩ := Option.map_eq_some_iff.mp read
    cases same
    exact Nat.lt_succ_of_lt (ih found)
  | case5 c others marked ih =>
    obtain ⟨⟨inner, after⟩, found, same⟩ := Option.map_eq_some_iff.mp read
    cases same
    exact Nat.lt_succ_of_lt (Nat.lt_succ_of_lt (ih found))
  | case6 => cases read; exact Nat.lt_succ_self _

theorem length_of_readIdentifier? (read : readIdentifier? mark text = some (name, rest)) :
    rest.length < text.length := by
  cases text with
  | nil => cases read
  | cons c others =>
    by_cases marked : c = mark
    · rw [readIdentifier?, if_pos marked] at read
      exact Nat.lt_succ_of_lt (length_of_readTail? read)
    · rw [readIdentifier?, if_neg marked] at read
      cases read

/-- The identifiers at the start of a text that have points between them, and the text behind them. -/
def readPath? (mark : Char) (text : List Char) : Option (List (List Char) × List Char) :=
  match _ : readIdentifier? mark text with
  | none => none
  | some (name, '.' :: rest) => (readPath? mark rest).map (Prod.map (name :: ·) id)
  | some (name, rest) => some ([name], rest)
termination_by text.length
decreasing_by
  have shorter := length_of_readIdentifier? ‹_›
  exact Nat.lt_of_succ_lt shorter

theorem readPath?_last (read : readIdentifier? mark text = some (name, rest)) (apart : rest.head? ≠ some '.') :
    readPath? mark text = some ([name], rest) := by
  unfold readPath?
  split
  next none => rw [read] at none; cases none
  next found =>
    rw [read] at found
    cases found
    exact absurd rfl apart
  next found => rw [read] at found; cases found; rfl

theorem readPath?_point (read : readIdentifier? mark text = some (name, '.' :: rest)) :
    readPath? mark text = (readPath? mark rest).map (Prod.map (name :: ·) id) := by
  rw [readPath?]
  split
  next none => rw [read] at none; cases none
  next found => rw [read] at found; cases found; rfl
  next other found =>
    rw [read] at found
    cases found
    exact absurd rfl (other _)

/-- Identifiers with points between them are read one by one, and the last one ends the path. -/
theorem readPath?_intercalate {names : List (List Char)} (nonempty : names ≠ []) (pointless : mark ≠ '.')
    (apart : rest.head? ≠ some mark) (ended : rest.head? ≠ some '.') :
    readPath? mark (['.'].intercalate (names.map (Quoting.marked mark).quoteChars) ++ rest) =
      some (names, rest) := by
  induction names with
  | nil => exact absurd rfl nonempty
  | cons name others ih =>
    cases others with
    | nil =>
      rw [List.map_singleton, List.intercalate_singleton]
      exact readPath?_last (readIdentifier?_quoteChars name apart) ended
    | cons next others =>
      have unmarked (text : List Char) : ('.' :: text).head? ≠ some mark :=
        fun same => pointless (Option.some.inj same).symm
      rw [List.map_cons, List.map_cons, List.intercalate_cons_cons, ← List.map_cons, List.append_assoc,
        List.append_assoc, List.singleton_append, readPath?_point (readIdentifier?_quoteChars name (unmarked _)),
        ih (List.cons_ne_nil _ _)]
      rfl

end Quoting

theorem splitAtPoints_eq_splitOn (text : List Char) : splitAtPoints text = text.splitOn '.' := by
  induction text with
  | nil => rfl
  | cons c rest ih =>
    rw [splitAtPoints, List.splitOn_cons_eq_if_modifyHead, ih]
    simp only [beq_iff_eq]
    split
    · rfl
    · obtain ⟨first, others, split_eq⟩ := List.exists_cons_of_ne_nil (List.splitOn_ne_nil '.' rest)
      rw [split_eq]
      rfl

/-! ### Dialects -/

namespace Dialect

open Quoting

/-- Two names are written as one identifier only if they are one name. -/
theorem fieldName_injective (dialect : Dialect) : Function.Injective dialect.fieldName := by
  intro first second same
  apply String.toList_injective
  apply dialect.quoting.quoteChars_injective
  exact String.ofList_injective same

variable {dialect : Dialect} {mark : Char} {rest : List Char}

/-- The identifiers that a table is named by. -/
def tablePath (dialect : Dialect) (name : String) : List (List Char) :=
  if dialect.splitsTableNames then name.toList.splitOn '.' else [name.toList]

theorem intercalate_tablePath (dialect : Dialect) (name : String) :
    ['.'].intercalate (dialect.tablePath name) = name.toList := by
  unfold tablePath
  split
  · exact List.intercalate_splitOn '.'
  · exact List.intercalate_singleton

theorem toList_tableName (dialect : Dialect) (name : String) : (dialect.tableName name).toList =
    ['.'].intercalate ((dialect.tablePath name).map dialect.quoting.quoteChars) := by
  unfold tableName tablePath
  split
  · rw [String.toList_intercalate, splitAtPoints_eq_splitOn, List.map_map]
    congr 1
    exact List.map_congr_left fun _ _ => String.toList_ofList
  · rw [List.map_singleton, List.intercalate_singleton]
    exact String.toList_ofList

theorem readIdentifier?_identifier (quoting : dialect.quoting = .marked mark) (name : String)
    (apart : rest.head? ≠ some mark) :
    readIdentifier? mark ((dialect.identifier name).toList ++ rest) = some (name.toList, rest) := by
  unfold identifier quote
  rw [String.toList_ofList, quoting]
  exact readIdentifier?_quoteChars name.toList apart

theorem readPath?_tableName (quoting : dialect.quoting = .marked mark) (pointless : mark ≠ '.') (name : String)
    (apart : rest.head? ≠ some mark) (ended : rest.head? ≠ some '.') :
    readPath? mark ((dialect.tableName name).toList ++ rest) = some (dialect.tablePath name, rest) := by
  have nonempty : dialect.tablePath name ≠ [] := by
    unfold tablePath
    split
    · exact List.splitOn_ne_nil _ _
    · exact List.cons_ne_nil _ _
  rw [toList_tableName, quoting]
  exact readPath?_intercalate nonempty pointless apart ended

theorem tableName_injective (quoting : dialect.quoting = .marked mark) (pointless : mark ≠ '.') :
    Function.Injective dialect.tableName := by
  intro first second same
  have alone (name : String) :
      readPath? mark (dialect.tableName name).toList = some (dialect.tablePath name, []) := by
    simpa using readPath?_tableName quoting pointless name (head?_nil_ne mark) (head?_nil_ne '.')
  have read := alone first
  rw [same, alone second] at read
  have path_eq : dialect.tablePath second = dialect.tablePath first := congrArg Prod.fst (Option.some.inj read)
  apply String.toList_injective
  rw [← intercalate_tablePath dialect first, ← path_eq, intercalate_tablePath]

/-- All dialects but the generic one quote, with a mark that is no point; BigQuery alone splits names of tables. -/
theorem quoting_of_builtIn (builtIn : dialect ∈ all) (quotes : dialect ≠ generic) :
    (∃ mark, dialect.quoting = .marked mark ∧ mark ≠ '.') ∧
      (dialect.splitsTableNames = true ↔ dialect = bigquery) := by
  simp only [all, List.mem_cons, List.not_mem_nil, or_false] at builtIn
  rcases builtIn with rfl | rfl | rfl | rfl | rfl | rfl | rfl
  · exact absurd rfl quotes
  all_goals exact ⟨⟨_, rfl, by decide⟩, by decide⟩

/-- A name that a dialect quotes is read back, wherever it stands and whatever follows it but another mark: a name
of a column, of a virtual table or of a measure as one identifier, and the name of a table as one identifier or as
its parts between points. So two names are never written alike. -/
theorem quoted_names_read_back {dialect : Dialect} (builtIn : dialect ∈ all) (quotes : dialect ≠ generic) :
    ∃ mark, dialect.quoting = .marked mark ∧
      (∀ (name : String) (rest : List Char), rest.head? ≠ some mark →
        readIdentifier? mark ((dialect.fieldName name).toList ++ rest) = some (name.toList, rest) ∧
        readIdentifier? mark ((dialect.cteName name).toList ++ rest) = some (name.toList, rest) ∧
        readIdentifier? mark ((dialect.measureLabel name).toList ++ rest) = some (name.toList, rest) ∧
        (dialect ≠ bigquery →
          readIdentifier? mark ((dialect.tableName name).toList ++ rest) = some (name.toList, rest)) ∧
        (rest.head? ≠ some '.' → readPath? mark ((dialect.tableName name).toList ++ rest) =
          some (if dialect = bigquery then name.toList.splitOn '.' else [name.toList], rest))) ∧
      Function.Injective dialect.fieldName ∧ Function.Injective dialect.cteName ∧
      Function.Injective dialect.measureLabel ∧ Function.Injective dialect.tableName := by
  obtain ⟨⟨mark, quoting, pointless⟩, splits⟩ := quoting_of_builtIn builtIn quotes
  refine ⟨mark, quoting, fun name rest apart => ?_, dialect.fieldName_injective, dialect.fieldName_injective,
    dialect.fieldName_injective, tableName_injective quoting pointless⟩
  have identifier := readIdentifier?_identifier quoting name apart
  refine ⟨identifier, identifier, identifier, fun other => ?_, fun ended => ?_⟩
  · have whole : dialect.tableName name = dialect.identifier name := if_neg fun split => other (splits.mp split)
    rw [whole]
    exact identifier
  · rw [readPath?_tableName quoting pointless name apart ended, tablePath]
    simp only [splits]

/-- Marks and points within the name of a table do not end it. -/
theorem bigquery_reads_marked_table : bigquery ∈ all ∧ bigquery ≠ generic ∧
    readPath? '\x60' (bigquery.tableName "a\x60\x60.\x60, b.").toList =
      some (["a\x60\x60".toList, "\x60, b".toList, []], []) := by
  have builtIn : bigquery ∈ all := by decide
  have quotes : bigquery ≠ generic := by decide
  obtain ⟨mark, quoting, reads, -⟩ := quoted_names_read_back builtIn quotes
  obtain rfl := Quoting.marked.inj quoting
  obtain ⟨-, -, -, -, path⟩ := reads "a\x60\x60.\x60, b." [] (head?_nil_ne _)
  have read := path (head?_nil_ne _)
  rw [List.append_nil] at read
  exact ⟨builtIn, quotes, read⟩

end Dialect

end CubeQuery
