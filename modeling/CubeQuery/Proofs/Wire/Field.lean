import CubeQuery.Proofs.Checked
import CubeQuery.Proofs.Wire.Record
import CubeQuery.Wire.Field

/-! Values, fields, conditions, periods and bucket sets are read back from their wire form, in the text
itself as well as in a tagged record. -/

namespace CubeQuery

open Json Wire

namespace Value

theorem listToJson_eq_map (items : List Value) : listToJson items = items.map toJson := by
  induction items with
  | nil => rfl
  | cons item items ih => rw [listToJson, ih, List.map_cons]

theorem isWritten_int (n : Int64) : (Json.int n.toInt).isWritten = true := by
  have low := n.le_toInt
  have high := n.toInt_lt
  have power : (Nat.pow 2 63 : Int) = 2 ^ 63 := rfl
  have word : (largestWord : Int) = 2 ^ 64 - 1 := rfl
  unfold isWritten
  exact Bool.and_eq_true_iff.mpr ⟨decide_eq_true (by omega), decide_eq_true (by omega)⟩

mutual

theorem isWritten_toJson (value : Value) : value.toJson.isWritten = true := by
  cases value with
  | int n => exact isWritten_int n
  | list items => exact itemsWritten_toJson items
  | _ => rfl

theorem itemsWritten_toJson (items : List Value) : itemsWritten (listToJson items) = true := by
  cases items with
  | nil => rfl
  | cons item items => exact Bool.and_eq_true_iff.mpr ⟨isWritten_toJson item, itemsWritten_toJson items⟩

end

theorem isWritten_of_mem {item : Json} {items : List Value} (listed : item ∈ listToJson items) :
    item.isWritten = true := by
  have written := itemsWritten_toJson items
  rw [itemsWritten_eq_all, List.all_eq_true] at written
  exact written item listed

mutual

theorem ofJson?_toJson (value : Value) : ofJson? value.toJson = some value := by
  cases value with
  | int n => simp [toJson, ofJson?, checkedInt64?_toInt]
  | list items => simp [toJson, ofJson?, listOfJson?_listToJson items]
  | _ => rfl

theorem listOfJson?_listToJson (items : List Value) : listOfJson? (listToJson items) = some items := by
  cases items with
  | nil => rfl
  | cons item items => simp [listToJson, listOfJson?, ofJson?_toJson item, listOfJson?_listToJson items]

end

theorem readList_toJson (items : List Value) :
    readList ofJson? (.arr (listToJson items)) = some items := by
  rw [listToJson_eq_map]
  exact readList_map fun item _ => ofJson?_toJson item

end Value

namespace Field

theorem isWritten_toJson (field : Field) : field.toJson.isWritten = true := by
  cases field with
  | table fullName label => cases label <;> rfl
  | constant value => simp [toJson, tagged, isWritten, Value.isWritten_toJson]
  | function | labelled => rfl

theorem read_toJson (place : Wire.Place) (field : Field) : read place field.toJson = some field := by
  have written := isWritten_toJson field
  unfold read
  cases field with
  | table fullName label =>
    have listed := (names_optionalMember "alias" (label.map Json.str)).cons_cons "fullName"
    rw [toJson, untag?_tagged written (by decide) listed (by decide)]
    cases label <;> rfl
  | constant value =>
    rw [toJson, untag?_tagged written (by decide) (.refl ["value"]) (by decide)]
    exact read_one (Value.ofJson?_toJson value)
  | function expression =>
    rw [toJson, untag?_tagged written (by decide) (.refl ["expression"]) (by decide)]
    rfl
  | labelled label =>
    rw [toJson, untag?_tagged written (by decide) (.refl ["alias"]) (by decide)]
    rfl

theorem toJson_ne_null (field : Field) : field.toJson ≠ .null := by
  cases field <;> exact nofun

theorem readList_toJson (place : Wire.Place) (fields : List Field) :
    readList (read place) (.arr (fields.map toJson)) = some fields :=
  readList_map fun field _ => read_toJson place field

end Field

namespace ConditionType

theorem read_toJson (place : Wire.Place) (type : ConditionType) : read place type.toJson = some type := by
  cases type <;> rfl

theorem toJson_ne_null (type : ConditionType) : type.toJson ≠ .null := nofun

end ConditionType

namespace Condition

theorem isWritten_toJson (condition : Condition) : condition.toJson.isWritten = true := by
  induction condition with
  | single type value => simp [toJson, tagged, isWritten, ConditionType.toJson, Value.isWritten_toJson]
  | inList type values =>
    have written := Value.itemsWritten_toJson values
    rw [itemsWritten_eq_all] at written
    simp [toJson, tagged, isWritten, ConditionType.toJson, written]
  | logical type one two first second =>
    simp [toJson, tagged, isWritten, ConditionType.toJson, first, second]
  | constant type => rfl

theorem readWithin_toJson (condition : Condition) {depth : Nat} (bound : condition.toJson.height < depth)
    (place : Wire.Place) : readWithin depth place condition.toJson = some condition := by
  have written := isWritten_toJson condition
  obtain ⟨depth, rfl⟩ := Nat.exists_eq_add_one_of_ne_zero (Nat.ne_zero_of_lt bound)
  cases condition <;> dsimp only [toJson, kind] at written bound ⊢
  case single type value =>
    rw [readWithin, untag?_tagged written (by decide) (.refl ["type", "value"]) (by decide)]
    exact read_two (type.read_toJson .tagged) value.ofJson?_toJson
  case inList type values =>
    rw [readWithin, untag?_tagged written (by decide) (.refl ["type", "values"]) (by decide)]
    exact read_two (type.read_toJson .tagged) (Value.readList_toJson values)
  case logical type one two =>
    have first := readWithin_toJson one (height_lt_of_member "one" bound (by simp)) .tagged
    have second := readWithin_toJson two (height_lt_of_member "two" bound (by simp)) .tagged
    rw [readWithin, untag?_tagged written (by decide) (.refl ["type", "one", "two"]) (by decide)]
    exact read_three (type.read_toJson .tagged) first second
  case constant type =>
    rw [readWithin, untag?_tagged written (by decide) (.refl ["type"]) (by decide)]
    exact read_one (type.read_toJson .tagged)

theorem read_toJson (place : Wire.Place) (condition : Condition) :
    read place condition.toJson = some condition :=
  readWithin_toJson condition (Nat.lt_succ_self _) place

theorem toJson_ne_null (condition : Condition) : condition.toJson ≠ .null := by
  cases condition <;> exact nofun

end Condition

namespace Period

theorem isWritten_toJson (period : Period) : period.toJson.isWritten = true := by
  cases period <;> simp [toJson, tagged, isWritten, Field.isWritten_toJson]

theorem read_toJson (place : Wire.Place) (period : Period) : read place period.toJson = some period := by
  have written := isWritten_toJson period
  unfold read
  cases period <;> rw [toJson]
  case year whole =>
    rw [untag?_tagged written (by decide) (.refl ["year"]) (by decide)]
    exact read_one (whole.read_toJson .tagged)
  case semester whole part =>
    rw [untag?_tagged written (by decide) (.refl ["year", "semester"]) (by decide)]
    exact read_two (whole.read_toJson .tagged) (part.read_toJson .tagged)
  case quarter whole part =>
    rw [untag?_tagged written (by decide) (.refl ["year", "quarter"]) (by decide)]
    exact read_two (whole.read_toJson .tagged) (part.read_toJson .tagged)
  case month whole part =>
    rw [untag?_tagged written (by decide) (.refl ["year", "month"]) (by decide)]
    exact read_two (whole.read_toJson .tagged) (part.read_toJson .tagged)

theorem toJson_ne_null (period : Period) : period.toJson ≠ .null := by
  cases period <;> exact nofun

end Period

namespace BucketSet

theorem isWritten_toJson (set : BucketSet) : set.toJson.isWritten = true := by
  simp only [toJson, tagged, isWritten, itemsWritten_eq_all, membersWritten_eq_all, List.all_cons, List.all_nil,
    Field.isWritten_toJson, List.all_map, Bool.true_and, Bool.and_true]
  refine List.all_eq_true.mpr fun bucket _ => ?_
  simpa [isWritten] using fun item (listed : item ∈ Value.listToJson bucket.members) =>
    Value.isWritten_of_mem listed

theorem ofJson?_toJson (set : BucketSet) : ofJson? set.toJson = some set := by
  have written := isWritten_toJson set
  have buckets : readList (readPair readString (readList Value.ofJson?))
      (.arr (set.buckets.map fun bucket => .arr [.str bucket.name, .arr (Value.listToJson bucket.members)])) =
        some (set.buckets.map fun bucket => (bucket.name, bucket.members)) :=
    mapM_map fun bucket _ => readPair_eq rfl (Value.readList_toJson bucket.members)
  unfold toJson at written ⊢
  rw [ofJson?, untag?_tagged written (by decide) (.refl ["name", "field", "values"]) (by decide)]
  refine (read_two buckets (set.field.read_toJson .tagged)).trans ?_
  rw [List.map_map]
  exact congrArg (fun buckets => some (BucketSet.mk set.name set.field buckets)) (List.map_id set.buckets)

end BucketSet

end CubeQuery
