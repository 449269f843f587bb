import Mathlib.Data.List.TakeWhile

/-! The longest span at the start of a list. It is the only part in front whose items all pass and behind which the
list ends or goes on with an item that does not. -/

namespace CubeQuery.Text

variable {α : Type} {p : α → Bool} {items front rest : List α}

theorem span_iff : items.takeWhile p = front ∧ items.dropWhile p = rest ↔ items = front ++ rest ∧
    (∀ item ∈ front, p item = true) ∧ ∀ item, rest.head? = some item → p item = false := by
  constructor
  · rintro ⟨rfl, rfl⟩
    refine ⟨List.takeWhile_append_dropWhile.symm, fun item => List.mem_takeWhile_imp, ?_⟩
    intro item first
    have stops := List.head?_dropWhile_not p items
    rw [first] at stops
    simpa using stops
  · rintro ⟨rfl, passed, stops⟩
    rw [List.takeWhile_append_of_pos passed, List.dropWhile_append_of_pos passed]
    cases rest with
    | nil => exact ⟨List.append_nil front, rfl⟩
    | cons item others =>
      have stopped : ¬p item = true := by simp [stops item rfl]
      rw [List.takeWhile_cons_of_neg stopped, List.dropWhile_cons_of_neg stopped]
      exact ⟨List.append_nil front, rfl⟩

theorem dropWhile_eq_iff : items.dropWhile p = rest ↔ ∃ front, items = front ++ rest ∧
    (∀ item ∈ front, p item = true) ∧ ∀ item, rest.head? = some item → p item = false := by
  constructor
  · exact fun dropped => ⟨_, span_iff.mp ⟨rfl, dropped⟩⟩
  · rintro ⟨front, split⟩
    exact (span_iff.mpr split).2

theorem takeWhile_eq_nil : items.takeWhile p = [] ↔ ∀ item, items.head? = some item → p item = false := by
  cases items with
  | nil => exact iff_of_true rfl nofun
  | cons item others => simp [List.takeWhile_cons]

end CubeQuery.Text
