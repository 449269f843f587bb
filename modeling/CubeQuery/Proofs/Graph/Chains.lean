import Mathlib.Data.List.Chain
import Mathlib.Logic.Relation

/-! The longest of the chains of dependencies that start at one place. Its length is told by the places
one step further on, and it is kept by any correspondence that follows steps both ways. -/

namespace CubeQuery

open List Relation

variable {α β : Type} {relation : α → α → Prop} {start next : α} {depth length : Nat}

theorem isChain_iff_infix {places : List α} :
    IsChain relation places ↔ ∀ start next, [start, next] <:+: places → relation start next := by
  rw [isChain_iff_forall_rel_of_append_cons_cons]
  constructor
  · rintro steps start next ⟨before, after, split⟩
    exact steps (by rw [← split, append_assoc]; rfl)
  · intro pairs start next before after split
    exact pairs start next ⟨before, after, by rw [split]; simp⟩

/-- A chain from the start has this many steps, and none has more. -/
structure LongestChain (relation : α → α → Prop) (start : α) (length : Nat) : Prop where
  reached : ∃ rest, IsChain relation (start :: rest) ∧ rest.length = length
  bound : ∀ rest, IsChain relation (start :: rest) → rest.length ≤ length

namespace LongestChain

theorem unique (longest : LongestChain relation start length) (other : LongestChain relation start depth) :
    length = depth := by
  obtain ⟨rest, chain, rfl⟩ := longest.reached
  obtain ⟨otherRest, otherChain, rfl⟩ := other.reached
  exact Nat.le_antisymm (other.bound rest chain) (longest.bound otherRest otherChain)

theorem exists_of_bounded (bounded : ∀ rest, IsChain relation (start :: rest) → rest.length ≤ depth) :
    ∃ length ≤ depth, LongestChain relation start length := by
  induction depth with
  | zero => exact ⟨0, le_refl 0, ⟨⟨[], .singleton start, rfl⟩, bounded⟩⟩
  | succ depth ih =>
    by_cases attained : ∃ rest, IsChain relation (start :: rest) ∧ rest.length = depth + 1
    · exact ⟨depth + 1, le_refl _, attained, bounded⟩
    · have lower : ∀ rest, IsChain relation (start :: rest) → rest.length ≤ depth := by
        intro rest chain
        have most := bounded rest chain
        have missed : rest.length ≠ depth + 1 := fun same => attained ⟨rest, chain, same⟩
        omega
      obtain ⟨length, small, longest⟩ := ih lower
      exact ⟨length, Nat.le_succ_of_le small, longest⟩

theorem step (longest : LongestChain relation start depth) (forth : relation start next) :
    ∃ length < depth, LongestChain relation next length := by
  have shorter : ∀ rest, IsChain relation (next :: rest) → rest.length < depth := fun rest chain =>
    longest.bound (next :: rest) (.cons_cons forth chain)
  have positive : 0 < depth := shorter [] (.singleton next)
  obtain ⟨length, small, nextLongest⟩ : ∃ length ≤ depth - 1, LongestChain relation next length :=
    exists_of_bounded fun rest chain => by
      have := shorter rest chain
      omega
  exact ⟨length, by omega, nextLongest⟩

/-- The longest chain has as many steps as the first number that exceeds those of all places one step
further on. -/
theorem iff_step : LongestChain relation start depth ↔
    (¬∃ length < depth, LongestChain relation start length) ∧
      ∀ next, relation start next → ∃ length < depth, LongestChain relation next length := by
  constructor
  · intro longest
    refine ⟨?_, fun next forth => longest.step forth⟩
    rintro ⟨length, small, other⟩
    exact absurd (other.unique longest) (Nat.ne_of_lt small)
  · rintro ⟨notLower, below⟩
    have bounded : ∀ rest, IsChain relation (start :: rest) → rest.length ≤ depth := by
      intro rest chain
      cases rest with
      | nil => exact Nat.zero_le depth
      | cons next rest =>
        obtain ⟨forth, after⟩ := isChain_cons_cons.mp chain
        obtain ⟨length, small, longest⟩ := below next forth
        exact Nat.lt_of_le_of_lt (longest.bound rest after) small
    obtain ⟨length, small, longest⟩ := exists_of_bounded bounded
    have same : length = depth :=
      Nat.le_antisymm small (Nat.not_lt.mp fun lower => notLower ⟨length, lower, longest⟩)
    exact same ▸ longest

end LongestChain

/-! ### Correspondence -/

/-- Each step on the left is answered by a step on the right. -/
def Simulates (relation : α → α → Prop) (other : β → β → Prop) (matched : α → β → Prop) : Prop :=
  ∀ start image, matched start image → ∀ next, relation start next →
    ∃ nextImage, matched next nextImage ∧ other image nextImage

variable {other : β → β → Prop} {matched : α → β → Prop} {image : β}

theorem Simulates.chain (simulates : Simulates relation other matched) {rest : List α}
    (same : matched start image) (chain : IsChain relation (start :: rest)) :
    ∃ images, IsChain other (image :: images) ∧ images.length = rest.length := by
  induction rest generalizing start image with
  | nil => exact ⟨[], .singleton image, rfl⟩
  | cons next rest ih =>
    obtain ⟨forth, after⟩ := isChain_cons_cons.mp chain
    obtain ⟨nextImage, nextSame, otherForth⟩ := simulates _ _ same _ forth
    obtain ⟨images, imagesChain, sameLength⟩ := ih nextSame after
    exact ⟨nextImage :: images, .cons_cons otherForth imagesChain, congrArg (· + 1) sameLength⟩

theorem Simulates.path (simulates : Simulates relation other matched) (same : matched start image)
    (path : TransGen relation start next) :
    ∃ nextImage, matched next nextImage ∧ TransGen other image nextImage := by
  induction path with
  | single forth =>
    obtain ⟨nextImage, nextSame, otherForth⟩ := simulates _ _ same _ forth
    exact ⟨nextImage, nextSame, .single otherForth⟩
  | tail _ forth ih =>
    obtain ⟨middle, middleSame, otherPath⟩ := ih
    obtain ⟨nextImage, nextSame, otherForth⟩ := simulates _ _ middleSame _ forth
    exact ⟨nextImage, nextSame, otherPath.tail otherForth⟩

theorem LongestChain.of_simulates (forth : Simulates relation other matched)
    (back : Simulates other relation fun image start => matched start image) (same : matched start image)
    (longest : LongestChain relation start length) : LongestChain other image length := by
  obtain ⟨rest, chain, rest_eq⟩ := longest.reached
  obtain ⟨images, imagesChain, sameLength⟩ := forth.chain same chain
  refine ⟨⟨images, imagesChain, sameLength.trans rest_eq⟩, fun otherRest otherChain => ?_⟩
  obtain ⟨starts, startsChain, startsLength⟩ := back.chain same otherChain
  rw [← startsLength]
  exact longest.bound starts startsChain

end CubeQuery
