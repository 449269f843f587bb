/-!
Finite maps kept as a list in strictly ascending order of keys, so that two maps with the same
entries are equal.
-/

namespace CubeQuery

/-- Each key is less than the next. -/
def Ascending {κ ν : Type} [Ord κ] : List (κ × ν) → Prop
  | [] => True
  | [_] => True
  | a :: b :: rest => compare a.1 b.1 = .lt ∧ Ascending (b :: rest)

instance orientedText : Std.OrientedOrd String :=
  @Std.TransCmp.toOrientedCmp String compare String.instTransOrd

structure SortedMap (κ ν : Type) [Ord κ] where
  entries : List (κ × ν)
  ascending : Ascending entries

namespace SortedMap

variable {κ ν : Type} [Ord κ]

def insertEntry (key : κ) (value : ν) : List (κ × ν) → List (κ × ν)
  | [] => [(key, value)]
  | (key', value') :: rest =>
    match compare key key' with
    | .lt => (key, value) :: (key', value') :: rest
    | .eq => (key', value) :: rest
    | .gt => (key', value') :: insertEntry key value rest

theorem ascending_change {key : κ} {value value' : ν} {rest : List (κ × ν)}
    (h : Ascending ((key, value) :: rest)) : Ascending ((key, value') :: rest) := by
  cases rest with
  | nil => trivial
  | cons _ _ => exact h

theorem insertEntry_ascending [Std.OrientedOrd κ] (key : κ) (value : ν) :
    ∀ entries : List (κ × ν), Ascending entries → Ascending (insertEntry key value entries)
  | [], _ => trivial
  | (first, _) :: rest, h => by
    rw [insertEntry]
    split
    · exact ⟨‹_›, h⟩
    · exact ascending_change h
    · next greater =>
      have swapped : compare first key = (compare key first).swap := Std.OrientedCmp.eq_swap
      have less : compare first key = .lt := by rw [swapped, greater]; rfl
      have kept := insertEntry_ascending key value rest (by
        cases rest with
        | nil => trivial
        | cons _ _ => exact h.2)
      revert kept
      cases rest with
      | nil => exact fun _ => ⟨less, trivial⟩
      | cons second others =>
        rw [insertEntry]
        split
        · exact fun kept => ⟨less, kept⟩
        · exact fun kept => ⟨h.1, kept⟩
        · exact fun kept => ⟨h.1, kept⟩

def empty : SortedMap κ ν := ⟨[], trivial⟩

instance : Inhabited (SortedMap κ ν) := ⟨empty⟩

def insert [Std.OrientedOrd κ] (map : SortedMap κ ν) (key : κ) (value : ν) : SortedMap κ ν :=
  ⟨insertEntry key value map.entries, insertEntry_ascending key value _ map.ascending⟩

/-- Of entries with one key the last wins. -/
def ofList [Std.OrientedOrd κ] (entries : List (κ × ν)) : SortedMap κ ν :=
  entries.foldl (fun map entry => map.insert entry.1 entry.2) empty

def get? (map : SortedMap κ ν) (key : κ) : Option ν :=
  (map.entries.find? fun entry => compare entry.1 key == .eq).map (·.2)

def keys (map : SortedMap κ ν) : List κ := map.entries.map (·.1)

def isEmpty (map : SortedMap κ ν) : Bool := map.entries.isEmpty

instance [DecidableEq κ] [DecidableEq ν] : DecidableEq (SortedMap κ ν) := fun a b =>
  decidable_of_iff (a.entries = b.entries) (by cases a; cases b; simp)

end SortedMap

end CubeQuery
