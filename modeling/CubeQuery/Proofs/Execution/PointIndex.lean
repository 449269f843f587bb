import CubeQuery.Proofs.Execution.Ordering
import CubeQuery.Value.Hash
import Std.Data.HashMap.Lemmas

/-! Values as keys. They are in a total order in which no other value is level with one, and two values tell a
hasher the same just when they are equal. So values are sorted into one sequence whatever sequence they come in, and
a hash table that is filled row by row finds for a point the last row that has it, whatever the hash codes are. -/

namespace CubeQuery

namespace Value

/-! ### Sorting -/

/-- Values in ascending order. -/
def sorted (values : List Value) : List Value := values.mergeSort fun a b => compare a b != .gt

theorem pairwise_sorted (values : List Value) : (sorted values).Pairwise fun a b => (compare a b != .gt) = true :=
  List.pairwise_mergeSort ascending_trans ascending_total values

theorem sorted_eq_of_perm {values others : List Value} (perm : values.Perm others) : sorted values = sorted others := by
  have rearranged : (sorted values).Perm (sorted others) :=
    ((List.mergeSort_perm values _).trans perm).trans (List.mergeSort_perm others _).symm
  exact rearranged.eq_of_pairwise (fun _ _ _ _ => ascending_antisymm) (pairwise_sorted values)
    (pairwise_sorted others)

/-! ### Hashing -/

mutual

/-- The kind tells which parts follow, so a value is told by the front of what a hasher hears. -/
theorem hashParts_append_inj (a b : Value) {rest others : List HashPart}
    (same : a.hashParts ++ rest = b.hashParts ++ others) : a = b ∧ rest = others := by
  cases a <;> cases b <;> simp only [hashParts, List.cons_append, List.nil_append] at same
  case null.null => exact ⟨rfl, List.tail_eq_of_cons_eq same⟩
  case bool.bool | int.int | str.str =>
    obtain ⟨part, rest_eq⟩ := List.cons.inj (List.tail_eq_of_cons_eq same)
    cases part
    exact ⟨rfl, rest_eq⟩
  case float.float x y =>
    obtain ⟨part, rest_eq⟩ := List.cons.inj (List.tail_eq_of_cons_eq same)
    cases x
    cases y
    cases part
    exact ⟨rfl, rest_eq⟩
  case list.list as bs =>
    obtain ⟨part, items⟩ := List.cons.inj (List.tail_eq_of_cons_eq same)
    obtain ⟨rfl, rest_eq⟩ := itemsHashParts_append_inj as bs (HashPart.count.inj part) items
    exact ⟨rfl, rest_eq⟩
  all_goals cases List.head_eq_of_cons_eq same

theorem itemsHashParts_append_inj (as bs : List Value) (lengths : as.length = bs.length)
    {rest others : List HashPart} (same : itemsHashParts as ++ rest = itemsHashParts bs ++ others) :
    as = bs ∧ rest = others := by
  cases as <;> cases bs
  case nil.nil => exact ⟨rfl, same⟩
  case cons.cons a as b bs =>
    simp only [itemsHashParts, List.append_assoc] at same
    obtain ⟨rfl, later⟩ := hashParts_append_inj a b same
    obtain ⟨rfl, last⟩ := itemsHashParts_append_inj as bs (Nat.succ.inj lengths) later
    exact ⟨rfl, last⟩
  all_goals cases lengths

end

theorem hashParts_eq_iff {a b : Value} : a.hashParts = b.hashParts ↔ a = b := by
  refine ⟨fun same => ?_, fun same => same ▸ rfl⟩
  have appended : a.hashParts ++ [] = b.hashParts ++ [] := by rw [same]
  exact (hashParts_append_inj a b appended).1

/-- Cells are level if there are as many of them and each is level with its own. -/
def levelCells : List Value → List Value → Bool
  | [], [] => true
  | a :: as, b :: bs => compare a b == .eq && levelCells as bs
  | [], _ :: _ | _ :: _, [] => false

theorem levelCells_iff {as bs : List Value} : levelCells as bs = true ↔ as = bs := by
  induction as generalizing bs with
  | nil => cases bs <;> simp [levelCells]
  | cons a as ih =>
    cases bs with
    | nil => simp [levelCells]
    | cons b bs => rw [levelCells, Bool.and_eq_true, beq_iff_eq, compare_eq_eq, ih, List.cons.injEq]

end Value

/-! ### Hash tables -/

/-- The cells of a row as a key, for a hasher that makes a code of what it is told. -/
structure PointKey (code : List HashPart → UInt64) where
  cells : List Value

namespace PointKey

variable {code : List HashPart → UInt64}

instance : BEq (PointKey code) := ⟨fun key other => Value.levelCells key.cells other.cells⟩

instance : Hashable (PointKey code) := ⟨fun key => code (Value.keyHashParts key.cells)⟩

theorem beq_eq_true_iff {key other : PointKey code} : (key == other) = true ↔ key.cells = other.cells :=
  Value.levelCells_iff

instance : EquivBEq (PointKey code) where
  rfl := beq_eq_true_iff.mpr rfl
  symm same := beq_eq_true_iff.mpr (beq_eq_true_iff.mp same).symm
  trans same other := beq_eq_true_iff.mpr ((beq_eq_true_iff.mp same).trans (beq_eq_true_iff.mp other))

/-- Keys that are level have one hash code. -/
instance : LawfulHashable (PointKey code) where
  hash_eq _ _ same := congrArg (code ∘ Value.keyHashParts) (beq_eq_true_iff.mp same)

/-- The rows by their cells in some columns, each row in place of earlier ones with the same cells. -/
def rowsAt (code : List HashPart → UInt64) (columns : List Column) (rows : List Nat) :
    Std.HashMap (PointKey code) Nat :=
  rows.foldl (fun index row => index.insert ⟨Table.cells columns row⟩ row) ∅

theorem rowsAt_concat (columns : List Column) (rows : List Nat) (row : Nat) :
    rowsAt code columns (rows ++ [row]) = (rowsAt code columns rows).insert ⟨Table.cells columns row⟩ row := by
  unfold rowsAt
  rw [List.foldl_concat]

/-- Among rows with the same cells the last one is found. -/
theorem getElem?_rowsAt (columns : List Column) (rows : List Nat) (point : List Value) :
    (rowsAt code columns rows)[(⟨point⟩ : PointKey code)]? =
      rows.reverse.find? fun row => Table.cells columns row = point := by
  induction rows using List.reverseRecOn with
  | nil => exact Std.HashMap.getElem?_empty
  | append_singleton rows row ih =>
    rw [rowsAt_concat, Std.HashMap.getElem?_insert, ih, List.reverse_concat, List.find?_cons]
    have level : ((⟨Table.cells columns row⟩ : PointKey code) == ⟨point⟩) = true ↔ Table.cells columns row = point :=
      beq_eq_true_iff
    by_cases here : Table.cells columns row = point
    · rw [if_pos (level.mpr here), decide_eq_true here]
    · rw [if_neg fun same => here (level.mp same), decide_eq_false here]

end PointKey

/-- Values are in a total order: every value is level with itself and with no other, two values stand either way
round, and what is not behind a value is not behind what follows it. Two values tell a hasher the same just when
they are level. So values are sorted into one sequence, and a hash table over the points of a table finds the last
row of a point under every hash code. -/
theorem Value.ordered_and_hashed_alike :
    (∀ a b : Value, compare a b = .eq ↔ a = b) ∧
      (∀ a b : Value, compare b a = (compare a b).swap) ∧
      (∀ a b : Value, compare a b ≠ .gt ∨ compare b a ≠ .gt) ∧
      (∀ a b c : Value, compare a b ≠ .gt → compare b c ≠ .gt → compare a c ≠ .gt) ∧
      (∀ a b : Value, compare a b = .eq ↔ a.hashParts = b.hashParts) ∧
      (∀ values others : List Value, values.Perm others → sorted values = sorted others) ∧
      ∀ (code : List HashPart → UInt64) (table : Table) (columns : List Column) (point : List Value),
        (PointKey.rowsAt code columns table.rowIndices)[(⟨point⟩ : PointKey code)]? =
          table.lastRowAt? columns point := by
  refine ⟨fun a b => compare_eq_eq, fun a b => compare_swap b a, ?_, ?_, ?_, ?_, ?_⟩
  · intro a b
    simpa only [Bool.or_eq_true, bne_iff_ne] using ascending_total a b
  · intro a b c first second
    rw [← bne_iff_ne] at first second ⊢
    exact ascending_trans a b c first second
  · exact fun a b => compare_eq_eq.trans hashParts_eq_iff.symm
  · exact fun values others => sorted_eq_of_perm
  · exact fun code table columns point => PointKey.getElem?_rowsAt columns table.rowIndices point

/-- Integers that round to one float stand apart from each other and before it. -/
example : compare (Value.int 9007199254740992) (.int 9007199254740993) = .lt ∧
    compare (Value.int 9007199254740993) (.float (.ofInt 9007199254740992)) = .lt ∧
    compare (Value.float (.ofInt 9007199254740992)) (.int 9007199254740994) = .lt := by
  decide +kernel

end CubeQuery
