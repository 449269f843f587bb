import CubeQuery.Proofs.Order
import CubeQuery.Proofs.Wire.Field
import CubeQuery.Wire.Measure

/-! Measures and criteria are read back from their wire form. The flat record of criteria shows its kind by
the members that are present, and each kind writes members that no other kind is told by. -/

namespace CubeQuery

open Json Wire

/-! ### Parts that have no written form -/

mutual

/-- Whether the whole has a written form, which the transformer of a vector has not. -/
def Criteria.isWritable : Criteria → Bool
  | .onField _ _ | .onPair _ _ _ => true
  | .onMeasure measure _ => measure.isWritable
  | .logical _ children => Criteria.listIsWritable children

def Criteria.listIsWritable : List Criteria → Bool
  | [] => true
  | criteria :: rest => criteria.isWritable && Criteria.listIsWritable rest

def Criteria.optionIsWritable : Option Criteria → Bool
  | none => true
  | some criteria => criteria.isWritable

def Measure.isWritable : Measure → Bool
  | .aggregated _ _ _ criteria => Criteria.optionIsWritable criteria
  | .binary _ _ left right => left.isWritable && right.isWritable
  | .comparison _ _ base _ _ _ _ => base.isWritable
  | .vector _ _ _ transformer => transformer.isNone
  | .expression _ _ | .count _ | .ref _ => true

end

/-! ### Constants and pairs -/

theorem BinaryOperator.read_toJson (place : Wire.Place) (operator : BinaryOperator) :
    read place (.str operator.wireName) = some operator := by
  cases operator <;> rfl

theorem ComparisonMethod.read_toJson (place : Wire.Place) (method : ComparisonMethod) :
    read place (.str method.wireName) = some method := by
  cases method <;> rfl

theorem ColumnSetKey.read_toJson (place : Wire.Place) (key : ColumnSetKey) :
    read place (.str key.wireName) = some key := by
  cases key
  rfl

theorem isWritten_pairToJson (pair : Field × String) : (pairToJson pair).isWritten = true := by
  simp [pairToJson, isWritten, Field.isWritten_toJson]

theorem readFieldPairs_toJson (pairs : List (Field × String)) :
    readFieldPairs (.arr (pairs.map pairToJson)) = some pairs :=
  readList_map fun pair _ => readPair_eq (pair.1.read_toJson .tagged) rfl

/-! ### Criteria and measures -/

theorem Criteria.listToJson_eq_map (children : List Criteria) :
    Criteria.listToJson children = children.map Criteria.toJson := by
  induction children with
  | nil => rfl
  | cons child rest ih => rw [Criteria.listToJson, ih, List.map_cons]

mutual

theorem Criteria.isWritten_toJson (criteria : Criteria) : criteria.toJson.isWritten = true := by
  cases criteria with
  | onField field condition =>
    simp [Criteria.toJson, isWritten, Field.isWritten_toJson, Condition.isWritten_toJson]
  | onPair left right type =>
    simp [Criteria.toJson, isWritten, Field.isWritten_toJson, ConditionType.toJson]
  | onMeasure measure condition =>
    simp [Criteria.toJson, isWritten, Measure.isWritten_toJson measure, Condition.isWritten_toJson]
  | logical type children =>
    have written : (Json.arr (Criteria.listToJson children)).isWritten = true :=
      Criteria.itemsWritten_toJson children
    rw [Criteria.toJson, listMember_eq, isWritten, membersWritten_eq_all, List.all_cons, all_optionalMember,
      unlessEmpty_written written]
    rfl

theorem Criteria.itemsWritten_toJson (children : List Criteria) :
    itemsWritten (Criteria.listToJson children) = true := by
  cases children with
  | nil => rfl
  | cons child rest =>
    exact Bool.and_eq_true_iff.mpr ⟨Criteria.isWritten_toJson child, Criteria.itemsWritten_toJson rest⟩

theorem Criteria.optionWritten_toJson (criteria : Option Criteria) :
    (Criteria.optionToJson criteria).all isWritten = true := by
  cases criteria with
  | none => rfl
  | some criteria => exact Criteria.isWritten_toJson criteria

theorem Measure.isWritten_toJson (measure : Measure) : measure.toJson.isWritten = true := by
  cases measure with
  | aggregated label field aggregation criteria =>
    have written := Criteria.optionWritten_toJson criteria
    simp only [Measure.toJson, tagged, isWritten, membersWritten_eq_all, List.all_cons, all_optionalMember,
      Field.isWritten_toJson, written, Bool.and_self]
  | expression | count | ref => rfl
  | binary label operator left right =>
    simp [Measure.toJson, tagged, isWritten, Measure.isWritten_toJson left, Measure.isWritten_toJson right]
  | comparison label method base positions period columnSet ancestors =>
    have periods : (period.map Period.toJson).all isWritten = true :=
      all_map_written Period.isWritten_toJson
    have lists : (ancestors.map fun fields => Json.arr (fields.map Field.toJson)).all isWritten = true :=
      all_map_written fun _ => isWritten_arr Field.isWritten_toJson
    have keys : (columnSet.map fun key => Json.str key.wireName).all isWritten = true :=
      all_map_written fun _ => rfl
    have positions : (positions.entries.map pairToJson).all isWritten = true := by
      simp [isWritten_pairToJson]
    simp only [Measure.toJson, tagged, isWritten, membersWritten_eq_all, itemsWritten_eq_all, List.all_cons,
      List.all_append, List.all_nil, all_optionalMember, Measure.isWritten_toJson base, positions, periods, keys,
      lists, Bool.and_self]
  | vector label components axis transformer =>
    simp [Measure.toJson, tagged, isWritten, Field.isWritten_toJson, isWritten_pairToJson]

end

theorem Criteria.toJson_ne_null (criteria : Criteria) : criteria.toJson ≠ .null := by
  cases criteria <;> exact nofun

theorem Measure.toJson_ne_null (measure : Measure) : measure.toJson ≠ .null := by
  cases measure <;> exact nofun

mutual

theorem Criteria.readWithin_toJson (criteria : Criteria) (writable : criteria.isWritable = true) {depth : Nat}
    (bound : criteria.toJson.height < depth) (place : Wire.Place) :
    Criteria.readWithin depth place criteria.toJson = some criteria := by
  obtain ⟨depth, rfl⟩ := Nat.exists_eq_add_one_of_ne_zero (Nat.ne_zero_of_lt bound)
  cases criteria with
  | onField field condition =>
    have first := nullable_eq field.toJson_ne_null (field.read_toJson place)
    have second := nullable_eq condition.toJson_ne_null (condition.read_toJson place)
    rw [Criteria.readWithin, Criteria.toJson]
    exact read_two first second
  | onPair left right type =>
    have first := nullable_eq left.toJson_ne_null (left.read_toJson place)
    have second := nullable_eq right.toJson_ne_null (right.read_toJson place)
    have third := nullable_eq type.toJson_ne_null (type.read_toJson place)
    rw [Criteria.readWithin, Criteria.toJson]
    exact read_three first second third
  | onMeasure measure condition =>
    have first := nullable_eq measure.toJson_ne_null
      (Measure.readWithin_toJson measure writable (height_lt_of_member "measure" bound (by simp)) place)
    have second := nullable_eq condition.toJson_ne_null (condition.read_toJson place)
    rw [Criteria.readWithin, Criteria.toJson]
    exact read_two first second
  | logical type children =>
    have first := nullable_eq type.toJson_ne_null (type.read_toJson place)
    cases children with
    | nil =>
      rw [Criteria.readWithin, Criteria.toJson]
      exact read_one first
    | cons child rest =>
      have bound : (Json.arr (Criteria.listToJson (child :: rest))).height < depth :=
        height_lt_of_member "children" bound (by simp [listMember, Criteria.listToJson])
      have second := readList_map (Criteria.readWithin_children (child :: rest) writable bound place)
      rw [← Criteria.listToJson_eq_map] at second
      rw [Criteria.readWithin, Criteria.toJson]
      exact read_two first second

theorem Criteria.readWithin_children (children : List Criteria)
    (writable : Criteria.listIsWritable children = true) {depth : Nat}
    (bound : (Json.arr (Criteria.listToJson children)).height < depth) (place : Wire.Place) :
    ∀ child ∈ children, Criteria.readWithin depth place child.toJson = some child := by
  cases children with
  | nil => exact nofun
  | cons first rest =>
    obtain ⟨firstWritable, restWritable⟩ := Bool.and_eq_true_iff.mp writable
    have firstBound := height_lt_of_item bound List.mem_cons_self
    have restBound : (Json.arr (Criteria.listToJson rest)).height < depth := by
      rw [Criteria.listToJson, height, itemsHeight] at bound
      rw [height]
      omega
    exact List.forall_mem_cons.mpr ⟨Criteria.readWithin_toJson first firstWritable firstBound place,
      Criteria.readWithin_children rest restWritable restBound place⟩

theorem Criteria.readWithin_option (criteria : Option Criteria)
    (writable : Criteria.optionIsWritable criteria = true) {depth : Nat}
    (bound : ∀ json ∈ Criteria.optionToJson criteria, json.height < depth) (place : Wire.Place) :
    (Criteria.optionToJson criteria).elim (some none) (nullable (Criteria.readWithin depth place)) =
      some criteria := by
  cases criteria with
  | none => rfl
  | some criteria =>
    exact nullable_eq criteria.toJson_ne_null
      (Criteria.readWithin_toJson criteria writable (bound _ rfl) place)

theorem Measure.readWithin_toJson (measure : Measure) (writable : measure.isWritable = true) {depth : Nat}
    (bound : measure.toJson.height < depth) (place : Wire.Place) :
    Measure.readWithin depth place measure.toJson = some measure := by
  have written := Measure.isWritten_toJson measure
  obtain ⟨depth, rfl⟩ := Nat.exists_eq_add_one_of_ne_zero (Nat.ne_zero_of_lt bound)
  rw [Measure.readWithin]
  cases measure <;> rw [Measure.toJson] at written bound ⊢
  case aggregated label field aggregation criteria =>
    have restriction := Criteria.readWithin_option criteria writable
      (fun json present => height_lt_of_member "criteria" bound (by
        rw [Option.mem_def] at present
        simp [present, optionalMember])) .tagged
    have listed := (names_optionalMember "criteria" (Criteria.optionToJson criteria)).cons_cons
      "aggregationFunction"
    rw [untag?_tagged written (by decide) ((listed.cons_cons "field").cons_cons "alias") (by decide)]
    have name : readString (.str aggregation) = some aggregation := rfl
    cases criteria <;> exact read_three (field.read_toJson .tagged) name restriction
  case expression label sql =>
    rw [untag?_tagged written (by decide) (.refl ["alias", "expression"]) (by decide)]
    rfl
  case binary label operator left right =>
    obtain ⟨leftWritable, rightWritable⟩ := Bool.and_eq_true_iff.mp writable
    have first := Measure.readWithin_toJson left leftWritable
      (height_lt_of_member "leftOperand" bound (by simp)) .tagged
    have second := Measure.readWithin_toJson right rightWritable
      (height_lt_of_member "rightOperand" bound (by simp)) .tagged
    rw [untag?_tagged written (by decide) (.refl ["alias", "operator", "leftOperand", "rightOperand"])
      (by decide)]
    exact read_three (operator.read_toJson .tagged) first second
  case count label =>
    rw [untag?_tagged written (by decide) (.refl ["alias"]) (by decide)]
    rfl
  case comparison label method base positions period? columnSet ancestors =>
    have reference := Measure.readWithin_toJson base writable
      (height_lt_of_member "measure" bound (by simp)) .tagged
    have pairs := readFieldPairs_toJson positions.entries
    have periods := readOptional Period.toJson_ne_null fun period (_ : period ∈ period?) =>
      period.read_toJson .tagged
    have keys := readOptional (fun key : ColumnSetKey => (nofun : Json.str key.wireName ≠ .null))
      fun key (_ : key ∈ columnSet) => key.read_toJson .tagged
    have lists := readOptional (fun fields : List Field => (nofun : Json.arr (fields.map Field.toJson) ≠ .null))
      fun fields (_ : fields ∈ ancestors) => Field.readList_toJson .tagged fields
    have same := SortedMap.ofList_entries Field.compare_lt_trans positions
    rw [untag?_tagged written (by decide) (names_append (names_append (names_append
      (.refl ["alias", "comparisonMethod", "measure", "referencePosition"]) (names_optionalMember _ _))
      (names_optionalMember _ _)) (names_optionalMember _ _)) (by decide)]
    cases period? <;> cases columnSet <;> cases ancestors <;>
      exact ((read_three (method.read_toJson .tagged) reference pairs).trans
        (read_three periods keys lists)).trans
          (congrArg (fun positions => some (Measure.comparison label method base positions _ _ _)) same)
  case vector label components axis transformer =>
    obtain rfl : transformer = none := by
      cases transformer with
      | none => rfl
      | some name => cases writable
    rw [untag?_tagged written (by decide) (.refl ["alias", "fieldToAggregateAndAggFunc", "vectorAxis"])
      (by decide)]
    exact read_two (readFieldPairs_toJson components) (axis.read_toJson .tagged)
  case ref label =>
    rw [untag?_tagged written (by decide) (.refl ["alias"]) (by decide)]
    rfl

end

theorem Criteria.ofJson?_toJson {criteria : Criteria} (writable : criteria.isWritable = true) :
    Criteria.ofJson? criteria.toJson = some criteria :=
  Criteria.readWithin_toJson criteria writable (Nat.lt_succ_self _) .text

theorem Measure.ofJson?_toJson {measure : Measure} (writable : measure.isWritable = true) :
    Measure.ofJson? measure.toJson = some measure :=
  Measure.readWithin_toJson measure writable (Nat.lt_succ_self _) .text

end CubeQuery
