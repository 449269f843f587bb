import CubeQuery.Sql.GroupingMarker
import Mathlib.Logic.Function.Basic

/-! Names of marker columns and the fields that they give back. The start and the end of a name are taken off as they
stand, and what is between them is the field, even if underscores or another marker are at its ends. -/

namespace CubeQuery.GroupingMarker

theorem stripStart?_eq_some {start text rest : List Char} :
    stripStart? start text = some rest ↔ text = start ++ rest := by
  induction start generalizing text with
  | nil => exact Option.some_inj
  | cons first others ih =>
    cases text with
    | nil => exact iff_of_false nofun nofun
    | cons c text =>
      unfold stripStart?
      by_cases same : first = c
      · rw [if_pos same, ih, same, List.cons_append, List.cons_inj_right]
      · rw [if_neg same]
        exact iff_of_false nofun fun text_eq => same (List.head_eq_of_cons_eq text_eq).symm

theorem stripEnd?_eq_some {ending text front : List Char} :
    stripEnd? ending text = some front ↔ text = front ++ ending := by
  unfold stripEnd?
  constructor
  · intro found
    obtain ⟨rest, stripped, rfl⟩ := Option.map_eq_some_iff.mp found
    rw [← List.reverse_reverse text, stripStart?_eq_some.mp stripped, List.reverse_append, List.reverse_reverse]
  · rintro rfl
    rw [List.reverse_append, stripStart?_eq_some.mpr rfl, Option.map_some, List.reverse_reverse]

/-- What is between the start and the end of a marker's name is the text of its field. -/
theorem strip_eq_some {name : String} {text : List Char} :
    (stripStart? opening name.toList).bind (stripEnd? closing) = some text ↔ name = label (String.ofList text) := by
  have label_eq : name = label (String.ofList text) ↔ name.toList = opening ++ (text ++ closing) := by
    unfold label
    rw [← String.toList_inj, String.toList_ofList, String.toList_ofList, List.append_assoc]
  rw [label_eq, Option.bind_eq_some_iff]
  constructor
  · rintro ⟨rest, stripped, ended⟩
    rw [stripStart?_eq_some.mp stripped, stripEnd?_eq_some.mp ended]
  · intro same
    exact ⟨text ++ closing, stripStart?_eq_some.mpr same, stripEnd?_eq_some.mpr rfl⟩

theorem strip_label (field : String) :
    (stripStart? opening (label field).toList).bind (stripEnd? closing) = some field.toList :=
  strip_eq_some.mpr (congrArg label String.ofList_toList.symm)

theorem label_injective : Function.Injective label := by
  intro first second same
  have between := strip_label first
  rw [same, strip_label] at between
  exact (String.toList_inj.mp (Option.some.inj between)).symm

/-- A marker gives its field back, unless the field could not be told from the rest of the name. -/
theorem field?_label (field : String) : field? (label field) =
    if field.toList.isEmpty || field.toList.contains '\n' then none else some field := by
  unfold field?
  simp only [strip_label, String.ofList_toList]

theorem field?_label_eq {field found : String} (read : field? (label field) = some found) :
    found = field := by
  rw [field?_label] at read
  split at read
  · cases read
  · exact (Option.some.inj read).symm

/-- A name that its marker gives back. -/
def Readable (name : String) : Prop := name ≠ "" ∧ '\n' ∉ name.toList

theorem Readable.field?_label {name : String} (readable : Readable name) : field? (label name) = some name := by
  obtain ⟨nonempty, oneLine⟩ := readable
  rw [GroupingMarker.field?_label, if_neg]
  simp [nonempty, oneLine]

theorem label_of_field? {name field : String} (read : field? name = some field) : name = label field := by
  unfold field? at read
  split at read
  · cases read
  next text between =>
    split at read
    · cases read
    · rw [← Option.some.inj read]
      exact strip_eq_some.mp between

theorem readable_of_field? {field : String} (read : field? (label field) = some field) : Readable field := by
  rw [field?_label] at read
  split at read
  · cases read
  next plain =>
    rw [Bool.or_eq_true, not_or] at plain
    exact ⟨fun empty => plain.1 (by rw [empty]; rfl), fun listed => plain.2 (List.contains_iff_mem.mpr listed)⟩

theorem field?_eq_some {name field : String} : field? name = some field ↔ Readable field ∧ name = label field := by
  constructor
  · intro read
    obtain rfl := label_of_field? read
    exact ⟨readable_of_field? read, rfl⟩
  · rintro ⟨readable, rfl⟩
    exact readable.field?_label

/-- A name is a marker exactly if it is the name of the marker of a field that is not empty and on one line. There is
one such field at most, and it is the one that is given back; from any other name nothing is. -/
theorem markers_read_exactly (name : String) :
    (isMarker name = true ↔ ∃ field, (field ≠ "" ∧ '\n' ∉ field.toList) ∧ name = label field) ∧
      (∀ field other, name = label field → name = label other → field = other) ∧
      (∀ field, field ≠ "" ∧ '\n' ∉ field.toList → name = label field → field? name = some field) ∧
      ((¬∃ field, (field ≠ "" ∧ '\n' ∉ field.toList) ∧ name = label field) → field? name = none) := by
  refine ⟨?_, ?_, fun field readable label_eq => field?_eq_some.mpr ⟨readable, label_eq⟩, ?_⟩
  · unfold isMarker
    rw [Option.isSome_iff_exists]
    exact exists_congr fun field => field?_eq_some
  · rintro field other rfl same
    exact label_injective same
  · intro none
    rw [Option.eq_none_iff_forall_ne_some]
    exact fun field read => none ⟨field, field?_eq_some.mp read⟩

/-- The end takes three underscores of a name for itself, and the field may be all that is left of them. -/
example : field? "___grouping_____" = none ∧ field? "___grouping_______" = some "_" ∧
    field? "___grouping______grouping___a______" = some "___grouping___a___" := by
  decide +kernel

end CubeQuery.GroupingMarker
