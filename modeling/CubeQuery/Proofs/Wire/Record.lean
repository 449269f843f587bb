import CubeQuery.Proofs.Json.Reading

/-! What is written as the members of a record is read back member by member: a record that is written has
members of known and different names, and a member is left out exactly when its default is meant. -/

namespace CubeQuery

namespace Json

/-! ### Parts -/

@[simp] theorem itemsWritten_eq_all (items : List Json) : itemsWritten items = items.all isWritten := by
  induction items with
  | nil => rfl
  | cons item items ih => rw [itemsWritten, ih, List.all_cons]

@[simp] theorem membersWritten_eq_all (members : List (String × Json)) :
    membersWritten members = members.all fun member => member.2.isWritten := by
  induction members with
  | nil => rfl
  | cons member members ih => rw [membersWritten, ih, List.all_cons]

theorem height_le_of_item {item : Json} {items : List Json} (listed : item ∈ items) :
    item.height ≤ itemsHeight items := by
  induction listed with
  | head => exact Nat.le_max_left _ _
  | tail _ _ ih => exact Nat.le_trans ih (Nat.le_max_right _ _)

theorem height_le_of_member {name : String} {value : Json} {members : List (String × Json)}
    (listed : (name, value) ∈ members) : value.height ≤ membersHeight members := by
  induction members with
  | nil => cases listed
  | cons member members ih =>
    obtain ⟨other, first⟩ := member
    rcases List.mem_cons.mp listed with same | listed
    · cases same
      exact Nat.le_max_left _ _
    · exact Nat.le_trans (ih listed) (Nat.le_max_right _ _)

theorem height_lt_of_item {item : Json} {items : List Json} {depth : Nat}
    (bound : (Json.arr items).height < depth) (listed : item ∈ items) : item.height < depth := by
  have := height_le_of_item listed
  rw [height] at bound
  omega

theorem height_lt_of_member (name : String) {value : Json} {members : List (String × Json)} {depth : Nat}
    (bound : (Json.obj members).height < depth + 1) (listed : (name, value) ∈ members) :
    value.height < depth := by
  have := height_le_of_member listed
  rw [height] at bound
  omega

end Json

namespace Wire

open Json

/-! ### Members -/

theorem distinct_of_nodup {names : List String} (nodup : names.Nodup) : distinct names = true := by
  induction names with
  | nil => rfl
  | cons name names ih =>
    obtain ⟨fresh, rest⟩ := List.nodup_cons.mp nodup
    simp [distinct, fresh, ih rest]

/-- A record reads the members that it knows, in any number and order. -/
theorem Record.ofJson?_obj {names : List String} {members : List (String × Json)}
    (known : (members.map (·.1)).Sublist names) (different : names.Nodup) :
    Record.ofJson? names (.obj members) = some ⟨true, members⟩ := by
  have kept : members.filter (fun member => names.contains member.1) = members := by
    refine List.filter_eq_self.mpr fun member listed => ?_
    exact List.contains_iff_mem.mpr (known.subset (List.mem_map_of_mem listed))
  unfold Record.ofJson?
  simp only [kept, distinct_of_nodup (different.sublist known), if_true]

theorem untag?_tagged {place : Place} {kinds names : List String} {kind : String}
    {members : List (String × Json)} (written : (tagged kind members).isWritten = true) (known : kind ∈ kinds)
    (listed : (members.map (·.1)).Sublist names) (untagged : tagName ∉ names) :
    untag? place kinds (tagged kind members) = some (kind, .obj members) := by
  have other : ∀ member ∈ members, member.1 ≠ tagName := fun member present same =>
    untagged (same ▸ listed.subset (List.mem_map_of_mem present))
  have rest : members.filter (fun member => member.1 != tagName) = members :=
    List.filter_eq_self.mpr fun member present => bne_iff_ne.mpr (other member present)
  have none : members.filter (fun member => member.1 == tagName) = [] :=
    List.filter_eq_nil_iff.mpr fun member present => by simpa using other member present
  unfold untag? tagged
  simp [rest, none, membersReadable_of_membersWritten members written, namedKind?, known]

/-! ### Values -/

section Parts

variable {α β γ ε : Type} {a : Option α} {b : Option β} {c : Option γ} {x : α} {y : β} {z : γ}

theorem read_one {make : α → Option ε} (first : a = some x) : (a.bind fun x => make x) = make x := by
  subst first
  rfl

theorem read_two {make : α → β → Option ε} (first : a = some x) (second : b = some y) :
    (a.bind fun x => b.bind fun y => make x y) = make x y := by
  subst first
  exact read_one second

theorem read_three {make : α → β → γ → Option ε} (first : a = some x) (second : b = some y)
    (third : c = some z) : (a.bind fun x => b.bind fun y => c.bind fun z => make x y z) = make x y z := by
  subst first
  exact read_two second third

end Parts

variable {α : Type} {read : Json → Option α} {write : α → Json}

theorem nullable_eq {json : Json} {value : α} (present : json ≠ .null) (back : read json = some value) :
    nullable read json = some (some value) := by
  unfold nullable
  split
  · contradiction
  · rw [back]
    rfl

/-- A value that is never written as `null` may be left out. -/
theorem readOptional {value : Option α} (present : ∀ v, write v ≠ .null)
    (back : ∀ v ∈ value, read (write v) = some v) :
    (value.map write).elim (some none) (nullable read) = some value := by
  cases value with
  | none => rfl
  | some v => exact nullable_eq (present v) (back v rfl)

theorem mapM_map {γ δ : Type} {items : List γ} {read : δ → Option α} {write : γ → δ} {value : γ → α}
    (back : ∀ item ∈ items, read (write item) = some (value item)) :
    (items.map write).mapM read = some (items.map value) := by
  induction items with
  | nil => rfl
  | cons item items ih =>
    obtain ⟨first, rest⟩ := List.forall_mem_cons.mp back
    simp [List.mapM_cons, first, ih rest]

theorem readList_map {items : List α} (back : ∀ item ∈ items, read (write item) = some item) :
    readList read (.arr (items.map write)) = some items := by
  have listed : (items.map write).mapM read = some (items.map id) := mapM_map back
  rwa [List.map_id] at listed

theorem readPair_eq {β : Type} {readSecond : Json → Option β} {first second : Json} {x : α} {y : β}
    (one : read first = some x) (two : readSecond second = some y) :
    readPair read readSecond (.arr [first, second]) = some (x, y) := read_two one two

theorem names_optionalMember (name : String) (value : Option Json) :
    ((optionalMember name value).map (·.1)).Sublist [name] := by
  cases value with
  | none => exact List.nil_sublist _
  | some value => exact List.Sublist.refl _

theorem names_append {front back : List (String × Json)} {names others : List String}
    (listed : (front.map (·.1)).Sublist names) (after : (back.map (·.1)).Sublist others) :
    ((front ++ back).map (·.1)).Sublist (names ++ others) := by
  rw [List.map_append]
  exact listed.append after

theorem all_map_written {value : Option α} (written : ∀ v, (write v).isWritten = true) :
    (value.map write).all isWritten = true := by
  cases value with
  | none => rfl
  | some v => exact written v

theorem isWritten_arr {items : List α} (written : ∀ v, (write v).isWritten = true) :
    (Json.arr (items.map write)).isWritten = true := by
  simp [isWritten, written]

theorem all_optionalMember (name : String) (value : Option Json) :
    (optionalMember name value).all (fun member => member.2.isWritten) = value.all isWritten := by
  cases value with
  | none => rfl
  | some value => simp [optionalMember]

/-! ### Records whose members may be left out -/

/-- The members of the parts that are present. -/
def presentMembers (parts : List (String × Option Json)) : List (String × Json) :=
  parts.flatMap fun part => optionalMember part.1 part.2

/-- The array of items, if there are any. -/
def unlessEmpty (items : List Json) : Option Json := if items.isEmpty then none else some (.arr items)

theorem unlessEmpty_written {items : List Json} (written : (Json.arr items).isWritten = true) :
    (unlessEmpty items).all isWritten = true := by
  cases items with
  | nil => rfl
  | cons item items => exact written

theorem listMember_eq (name : String) (items : List Json) :
    listMember name items = optionalMember name (unlessEmpty items) := by
  cases items <;> rfl

section Present

variable {parts : List (String × Option Json)} {name : String}

theorem names_presentMembers (parts : List (String × Option Json)) :
    ((presentMembers parts).map (·.1)).Sublist (parts.map (·.1)) := by
  induction parts with
  | nil => exact List.nil_sublist _
  | cons part rest ih => exact names_append (names_optionalMember part.1 part.2) ih

theorem membersWritten_presentMembers (parts : List (String × Option Json)) :
    membersWritten (presentMembers parts) = parts.all fun part => part.2.all isWritten := by
  induction parts with
  | nil => rfl
  | cons part rest ih =>
    rw [membersWritten_eq_all] at ih ⊢
    rw [presentMembers, List.flatMap_cons, List.all_append, all_optionalMember, List.all_cons]
    exact congrArg _ ih

theorem mem_presentMembers {json : Json} (listed : (name, some json) ∈ parts) :
    (name, json) ∈ presentMembers parts :=
  List.mem_flatMap.mpr ⟨_, listed, List.mem_singleton_self _⟩

theorem lookup_presentMembers {value : Option Json} (different : (parts.map (·.1)).Nodup)
    (listed : parts.lookup name = some value) : (presentMembers parts).lookup name = value := by
  induction parts with
  | nil => cases listed
  | cons part rest ih =>
    obtain ⟨other, first⟩ := part
    obtain ⟨fresh, others⟩ := List.nodup_cons.mp different
    rw [presentMembers, List.flatMap_cons, List.lookup_append]
    by_cases same : name = other
    · subst same
      obtain rfl : first = value := by simpa using listed
      cases first with
      | some json => simp [optionalMember]
      | none =>
        have absent : name ∉ (presentMembers rest).map (·.1) := fun present =>
          fresh ((names_presentMembers rest).subset present)
        refine List.lookup_eq_none_iff.mpr fun member present => bne_iff_ne.mpr ?_
        rintro rfl
        exact absent (List.mem_map_of_mem present)
    · rw [List.lookup_cons, beq_false_of_ne same] at listed
      have skipped : (optionalMember other first).lookup name = none := by
        cases first <;> simp [optionalMember, List.lookup_cons, beq_false_of_ne same]
      rw [skipped]
      exact ih others listed

variable {read : Json → Option α}

theorem Record.ofJson?_present (different : (parts.map (·.1)).Nodup) :
    Record.ofJson? (parts.map (·.1)) (.obj (presentMembers parts)) = some ⟨true, presentMembers parts⟩ :=
  Record.ofJson?_obj (names_presentMembers parts) different

/-- A part is read as it is written, or its default is meant. -/
theorem Record.withDefault_present (name : String) {part : Option Json} {default value : α}
    (different : (parts.map (·.1)).Nodup) (listed : parts.lookup name = some part)
    (back : part.elim (some default) read = some value) :
    Record.withDefault ⟨true, presentMembers parts⟩ name default read = some value := by
  unfold Record.withDefault Record.get?
  rw [lookup_presentMembers different listed]
  cases part <;> exact back

theorem Record.withDefault_always (name : String) {json : Json} {default value : α}
    (different : (parts.map (·.1)).Nodup) (listed : parts.lookup name = some (some json))
    (back : read json = some value) :
    Record.withDefault ⟨true, presentMembers parts⟩ name default read = some value :=
  Record.withDefault_present name different listed back

theorem readUnlessEmpty {write : α → Json} {items : List α}
    (back : ∀ item ∈ items, read (write item) = some item) :
    (unlessEmpty (items.map write)).elim (some []) (readList read) = some items := by
  cases items with
  | nil => rfl
  | cons item items => exact readList_map back

end Present

end Wire

end CubeQuery
