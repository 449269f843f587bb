import CubeQuery.Proofs.Plan.Discovery

/-! The arena of a list of measures of any nesting. A label that is known already is passed over together
with all below it, and still nothing is lost: what is known has its own operands registered, and operands
of measures that are defined alike are defined alike. So an arena is built if and only if the definitions
of each label agree and every label that is read is defined, whatever the order of the list. -/

namespace CubeQuery

open Steps

namespace Measure

/-! ### Operands -/

def isReference : Measure → Bool
  | .ref _ => true
  | _ => false

/-- The measures that a measure reads, by value or by reference. -/
def reads : Measure → List Measure
  | .binary _ _ left right => [left, right]
  | .comparison _ _ base _ _ _ _ => [base]
  | .vector label fields _ _ => components label fields
  | _ => []

/-- What a measure is computed from. A vector is computed from an aggregate for each of its fields, which has its
label from the vector and the place of the field. -/
inductive Operand : Measure → Measure → Prop where
  | left {label : String} {operator : BinaryOperator} {left right : Measure} :
      Operand (.binary label operator left right) left
  | right {label : String} {operator : BinaryOperator} {left right : Measure} :
      Operand (.binary label operator left right) right
  | base {label : String} {method : ComparisonMethod} {base : Measure} {positions : SortedMap Field String}
      {period : Option Period} {columnSet : Option ColumnSetKey} {ancestors : Option (List Field)} :
      Operand (.comparison label method base positions period columnSet ancestors) base
  | component {label : String} {fields : List (Field × String)} {axis : Field} {transformer : Option String}
      {place : Nat} {field : Field} {aggregation : String} (listed : fields[place]? = some (field, aggregation)) :
      Operand (.vector label fields axis transformer)
        (.aggregated ("__" ++ label ++ "_" ++ toString place ++ "__") field aggregation none)

theorem componentsFrom_eq (vector : String) (start : Nat) (fields : List (Field × String)) :
    componentsFrom vector start fields = fields.mapIdx fun place (field, aggregation) =>
      .aggregated (componentLabel vector (start + place)) field aggregation none := by
  induction fields generalizing start with
  | nil => rfl
  | cons pair rest ih =>
    simp only [componentsFrom, ih, List.mapIdx_cons, Nat.add_assoc, Nat.add_comm 1]
    rfl

theorem mem_reads {measure operand : Measure} : operand ∈ measure.reads ↔ Operand measure operand := by
  constructor
  · intro read
    cases measure with
    | binary label operator left right =>
      rcases List.mem_cons.mp read with rfl | last
      · exact .left
      · obtain rfl := List.mem_singleton.mp last
        exact .right
    | comparison label method base positions period columnSet ancestors =>
      obtain rfl := List.mem_singleton.mp read
      exact .base
    | vector label fields axis transformer =>
      replace read : operand ∈ componentsFrom label 0 fields := read
      rw [componentsFrom_eq] at read
      obtain ⟨place, inside, rfl⟩ := List.mem_mapIdx.mp read
      rw [Nat.zero_add]
      exact .component (List.getElem?_eq_getElem inside)
    | _ => exact absurd read List.not_mem_nil
  · rintro (_ | _ | _ | @⟨label, fields, -, -, place, field, aggregation, listed⟩)
    · exact List.mem_cons_self
    · exact List.mem_cons_of_mem _ List.mem_cons_self
    · exact List.mem_cons_self
    · obtain ⟨inside, pair_eq⟩ := List.getElem?_eq_some_iff.mp listed
      show _ ∈ componentsFrom label 0 fields
      rw [componentsFrom_eq]
      refine List.mem_mapIdx.mpr ⟨place, inside, ?_⟩
      rw [pair_eq, Nat.zero_add]
      rfl

theorem operands_eq (measure : Measure) : measure.operands = measure.reads.map label := by
  cases measure <;> rfl

theorem forall_operands {measure : Measure} {P : String → Prop} :
    (∀ label ∈ measure.operands, P label) ↔ ∀ operand, Operand measure operand → P operand.label := by
  simp only [operands_eq, List.forall_mem_map, mem_reads]

/-- Induction over the operands of measures. -/
@[elab_as_elim]
theorem readInduction {motive : Measure → Prop}
    (step : ∀ measure, (∀ operand ∈ measure.reads, motive operand) → motive measure) :
    (measure : Measure) → motive measure
  | .binary label operator left right =>
    step (.binary label operator left right) <| List.forall_mem_cons.mpr
      ⟨readInduction step left, List.forall_mem_singleton.mpr (readInduction step right)⟩
  | .comparison label method base positions period columnSet ancestors =>
    step (.comparison label method base positions period columnSet ancestors) <|
      List.forall_mem_singleton.mpr (readInduction step base)
  | .vector label fields axis transformer =>
    step (.vector label fields axis transformer) fun component listed => by
      obtain ⟨_, _, _, rfl⟩ := component_aggregated component listed
      exact step _ fun _ none => absurd none List.not_mem_nil
  | .aggregated label field aggregation criteria =>
    step (.aggregated label field aggregation criteria) fun _ none => absurd none List.not_mem_nil
  | .expression label sql => step (.expression label sql) fun _ none => absurd none List.not_mem_nil
  | .count label => step (.count label) fun _ none => absurd none List.not_mem_nil
  | .ref label => step (.ref label) fun _ none => absurd none List.not_mem_nil

theorem parts_eq (measure : Measure) :
    measure.parts = if measure.isReference then [] else measure :: measure.reads.flatMap parts := by
  cases measure with
  | vector label fields axis transformer =>
    have single : ∀ component ∈ components label fields, component.parts = [component] := by
      intro component listed
      obtain ⟨_, _, _, rfl⟩ := component_aggregated component listed
      rfl
    show _ = Measure.vector label fields axis transformer :: (components label fields).flatMap parts
    rw [List.flatMap_congr single, List.flatMap_singleton']
    rfl
  | _ => simp [parts, isReference, reads]

theorem mem_parts_self {measure : Measure} (whole : ∀ label, measure ≠ .ref label) : measure ∈ measure.parts := by
  cases measure with
  | ref label => exact absurd rfl (whole label)
  | _ => exact List.mem_cons_self

theorem mem_parts_of_operand (measure : Measure) : ∀ {part operand : Measure}, part ∈ measure.parts →
    part.Operand operand → (∀ label, operand ≠ .ref label) → operand ∈ measure.parts := by
  induction measure using readInduction with
  | step measure ih =>
    intro part operand listed read whole
    rw [parts_eq] at listed ⊢
    split at listed
    · exact absurd listed List.not_mem_nil
    next defined =>
      rw [if_neg defined]
      refine List.mem_cons_of_mem _ (List.mem_flatMap.mpr ?_)
      rcases List.mem_cons.mp listed with rfl | below
      · exact ⟨operand, mem_reads.mpr read, mem_parts_self whole⟩
      · obtain ⟨other, otherRead, inOther⟩ := List.mem_flatMap.mp below
        exact ⟨other, otherRead, ih other otherRead inOther read whole⟩

/-! ### Equal definitions -/

theorem sameDefinition_iff {one other : Measure} :
    one.sameDefinition other = true ↔ one.plain = other.plain := decide_eq_true_iff

theorem label_plain (measure : Measure) : measure.plain.label = measure.label := by
  cases measure <;> rfl

theorem isReference_plain (measure : Measure) : measure.plain.isReference = measure.isReference := by
  cases measure <;> rfl

theorem reads_plain (measure : Measure) : measure.plain.reads = measure.reads.map plain := by
  cases measure with
  | vector label fields axis transformer =>
    have kept : ∀ component ∈ components label fields, component.plain = id component := by
      intro component listed
      obtain ⟨_, _, _, rfl⟩ := component_aggregated component listed
      rfl
    show components label fields = (components label fields).map plain
    rw [List.map_congr_left kept, List.map_id]
  | _ => rfl

variable {one other : Measure}

theorem label_eq_of_plain (same : one.plain = other.plain) : one.label = other.label := by
  rw [← label_plain one, same, label_plain]

theorem isReference_eq_of_plain (same : one.plain = other.plain) : one.isReference = other.isReference := by
  rw [← isReference_plain one, same, isReference_plain]

theorem reads_eq_of_plain (same : one.plain = other.plain) : one.reads.map plain = other.reads.map plain := by
  rw [← reads_plain, same, reads_plain]

theorem operands_eq_of_plain (same : one.plain = other.plain) : one.operands = other.operands := by
  have labels (measure : Measure) : measure.operands = (measure.reads.map plain).map label := by
    rw [operands_eq, List.map_map]
    exact List.map_congr_left fun operand _ => (label_plain operand).symm
  rw [labels, reads_eq_of_plain same, labels]

end Measure

namespace Arena

/-! ### Registration -/

theorem registerComponents_eq {components : List Measure}
    (plain : ∀ component ∈ components, ∃ label field aggregation,
      component = .aggregated label field aggregation none) (arena : Arena) :
    arena.registerComponents components = arena.registerAll components := by
  induction components generalizing arena with
  | nil => rfl
  | cons component rest ih =>
    obtain ⟨⟨label, field, aggregation, rfl⟩, later⟩ := List.forall_mem_cons.mp plain
    unfold registerComponents registerAll
    simp only [ih later]
    rfl

/-- Registration is the same for measures of every kind. -/
theorem register_eq (arena : Arena) (measure : Measure) :
    arena.register measure =
      if measure.isReference then .ok arena else arena.add measure (·.registerAll measure.reads) := by
  cases measure with
  | binary label operator left right =>
    have operands (next : Arena) :
        (next.register left >>= fun middle => middle.register right) = next.registerAll [left, right] := by
      simp only [registerAll]
      cases next.register left with
      | error => rfl
      | ok middle => cases second : middle.register right <;> simp [second]
    exact congrArg (arena.add (.binary label operator left right)) (funext operands)
  | comparison label method base positions period columnSet ancestors =>
    have operand (next : Arena) : next.register base = next.registerAll [base] := by
      simp only [registerAll]
      cases next.register base <;> rfl
    exact congrArg (arena.add (.comparison label method base positions period columnSet ancestors))
      (funext operand)
  | vector label fields axis transformer =>
    exact congrArg (arena.add _) (funext fun next => registerComponents_eq Measure.component_aggregated next)
  | _ => rfl

theorem add_eq_ok {arena grown : Arena} {measure : Measure} {more : Arena → Except QueryError Arena} :
    arena.add measure more = .ok grown ↔
      (∃ known, arena.find? measure.label = some known ∧ known.plain = measure.plain ∧ grown = arena) ∨
        (arena.find? measure.label = none ∧ more ⟨arena.measures ++ [measure]⟩ = .ok grown) := by
  unfold add
  cases arena.find? measure.label with
  | none => simp
  | some known =>
    by_cases same : known.plain = measure.plain
    · simp [Measure.sameDefinition_iff, same, eq_comm (a := grown)]
    · simp [Measure.sameDefinition_iff, same]

/-- A measure is known by its label, in its own definition. A mere reference need not be. -/
def Holds (arena : Arena) (measure : Measure) : Prop :=
  measure.isReference = false → ∃ known, arena.find? measure.label = some known ∧ known.plain = measure.plain

def labels (arena : Arena) : List String := arena.measures.map Measure.label

/-- What measures that are registered do to an arena: what is known stays, and each new measure has its
operands known. -/
structure Grows (arena grown : Arena) : Prop where
  keeps : ∀ label known, arena.find? label = some known → grown.find? label = some known
  backed : ∀ measure ∈ grown.measures, measure ∈ arena.measures ∨ ∀ operand ∈ measure.reads, grown.Holds operand
  distinct : arena.labels.Nodup → grown.labels.Nodup

theorem Grows.refl (arena : Arena) : arena.Grows arena := ⟨fun _ _ => id, fun _ => .inl, id⟩

theorem Grows.holds {arena grown : Arena} (grows : arena.Grows grown) {measure : Measure}
    (holds : arena.Holds measure) : grown.Holds measure := by
  intro defined
  obtain ⟨known, found, same⟩ := holds defined
  exact ⟨known, grows.keeps _ _ found, same⟩

theorem Grows.trans {first second third : Arena} (grows : first.Grows second) (more : second.Grows third) :
    first.Grows third where
  keeps label known found := more.keeps label known (grows.keeps label known found)
  backed measure listed := by
    rcases more.backed measure listed with old | backed
    · exact (grows.backed measure old).imp_right fun backed operand read => more.holds (backed operand read)
    · exact .inr backed
  distinct := more.distinct ∘ grows.distinct

theorem find?_eq_none_iff {arena : Arena} {label : String} :
    arena.find? label = none ↔ label ∉ arena.labels := by
  unfold find? labels
  simp

theorem exists_find?_iff {arena : Arena} {label : String} :
    (∃ known, arena.find? label = some known) ↔ label ∈ arena.labels := by
  rw [← Option.isSome_iff_exists, ← not_iff_not, Option.not_isSome_iff_eq_none, find?_eq_none_iff]

theorem mem_of_find? {arena : Arena} {label : String} {known : Measure}
    (found : arena.find? label = some known) : known ∈ arena.measures := List.mem_of_find?_eq_some found

/-- A new measure stands behind the others, and its operands follow it. -/
theorem Grows.of_new {arena grown : Arena} {measure : Measure} (new : arena.find? measure.label = none)
    (grows : Grows ⟨arena.measures ++ [measure]⟩ grown) (operands : ∀ operand ∈ measure.reads, grown.Holds operand) :
    arena.Grows grown ∧ grown.Holds measure := by
  refine ⟨⟨fun label known found => grows.keeps label known ?_, fun other listed => ?_, fun distinct => ?_⟩,
    fun _ => ⟨measure, grows.keeps _ _ ?_, rfl⟩⟩
  · unfold find? at found ⊢
    rw [List.find?_append, found]
    rfl
  · rcases grows.backed other listed with old | backed
    · rcases List.mem_append.mp old with old | single
      · exact .inl old
      · rw [List.mem_singleton.mp single]
        exact .inr operands
    · exact .inr backed
  · apply grows.distinct
    unfold labels
    rw [List.map_append, List.nodup_append']
    exact ⟨distinct, List.nodup_singleton _, List.disjoint_singleton.mpr (find?_eq_none_iff.mp new)⟩
  · unfold find? at new ⊢
    rw [List.find?_append, new]
    simp

theorem grows_registerAll {measures : List Measure} {arena grown : Arena}
    (each : ∀ measure ∈ measures, ∀ {arena grown : Arena}, arena.register measure = .ok grown →
      arena.Grows grown ∧ grown.Holds measure) (registered : arena.registerAll measures = .ok grown) :
    arena.Grows grown ∧ ∀ measure ∈ measures, grown.Holds measure := by
  induction measures generalizing arena with
  | nil =>
    obtain rfl := Except.ok.inj registered
    exact ⟨.refl _, fun _ none => absurd none List.not_mem_nil⟩
  | cons measure rest ih =>
    obtain ⟨ofMeasure, ofRest⟩ := List.forall_mem_cons.mp each
    obtain ⟨next, first, later⟩ := bind_eq_ok.mp registered
    obtain ⟨grows, holds⟩ := ofMeasure first
    obtain ⟨more, held⟩ := ih ofRest later
    exact ⟨grows.trans more, List.forall_mem_cons.mpr ⟨more.holds holds, held⟩⟩

theorem grows_register (measure : Measure) : ∀ {arena grown : Arena}, arena.register measure = .ok grown →
    arena.Grows grown ∧ grown.Holds measure := by
  induction measure using Measure.readInduction with
  | step measure ih =>
    intro arena grown registered
    rw [register_eq] at registered
    split at registered
    next isRef =>
      obtain rfl := Except.ok.inj registered
      exact ⟨.refl _, fun defined => by rw [isRef] at defined; cases defined⟩
    next =>
      rcases add_eq_ok.mp registered with ⟨known, found, same, rfl⟩ | ⟨new, more⟩
      · exact ⟨.refl _, fun _ => ⟨known, found, same⟩⟩
      · obtain ⟨grows, operands⟩ := grows_registerAll ih more
        exact grows.of_new new operands

/-- Where each known measure has its operands known, what is known has all of its parts known. By induction
over the measure: the one that is known in its place is defined alike, and so are its operands. -/
theorem holds_parts {arena : Arena} (backed : ∀ known ∈ arena.measures, ∀ operand ∈ known.reads, arena.Holds operand)
    (measure : Measure) : arena.Holds measure → ∀ part ∈ measure.parts, arena.Holds part := by
  induction measure using Measure.readInduction with
  | step measure ih =>
    intro holds part listed
    rw [Measure.parts_eq] at listed
    split at listed
    · exact absurd listed List.not_mem_nil
    next defined =>
      rcases List.mem_cons.mp listed with rfl | below
      · exact holds
      · obtain ⟨operand, read, inOperand⟩ := List.mem_flatMap.mp below
        obtain ⟨known, found, same⟩ := holds (Bool.eq_false_iff.mpr defined)
        obtain ⟨twin, twinRead, alike⟩ : ∃ twin ∈ known.reads, twin.plain = operand.plain := by
          have listed := List.mem_map_of_mem (f := Measure.plain) read
          rw [← Measure.reads_eq_of_plain same] at listed
          exact List.mem_map.mp listed
        refine ih operand read (fun isDefined => ?_) part inOperand
        rw [← Measure.isReference_eq_of_plain alike] at isDefined
        have twinHolds := backed known (mem_of_find? found) twin twinRead isDefined
        rwa [Measure.label_eq_of_plain alike, alike] at twinHolds

/-! ### Definitions that agree -/

/-- The measures of a list and their operands at any depth, without mere references. -/
def definitions (measures : List Measure) : List Measure := measures.flatMap Measure.parts

/-- The measures of a list and what they are computed from, at any depth. -/
inductive Occurs (measures : List Measure) : Measure → Prop where
  | listed {measure : Measure} (listed : measure ∈ measures) : Occurs measures measure
  | operand {measure operand : Measure} (occurs : Occurs measures measure) (read : measure.Operand operand) :
      Occurs measures operand

theorem Occurs.parts {measures : List Measure} (measure : Measure) :
    Occurs measures measure → ∀ part ∈ measure.parts, Occurs measures part := by
  induction measure using Measure.readInduction with
  | step measure ih =>
    intro occurs part listed
    rw [Measure.parts_eq] at listed
    split at listed
    · exact absurd listed List.not_mem_nil
    · rcases List.mem_cons.mp listed with rfl | below
      · exact occurs
      · obtain ⟨operand, read, inOperand⟩ := List.mem_flatMap.mp below
        exact ih operand read (.operand occurs (Measure.mem_reads.mp read)) part inOperand

theorem mem_definitions {measures : List Measure} {measure : Measure} :
    measure ∈ definitions measures ↔ Occurs measures measure ∧ ∀ label, measure ≠ .ref label := by
  constructor
  · intro defined
    obtain ⟨outer, listed, part⟩ := List.mem_flatMap.mp defined
    exact ⟨Occurs.parts outer (.listed listed) measure part, outer.parts_ne_ref measure part⟩
  · rintro ⟨occurs, whole⟩
    induction occurs with
    | @listed measure listed =>
      exact List.mem_flatMap.mpr ⟨measure, listed, Measure.mem_parts_self whole⟩
    | @operand outer operand occurs read ih =>
      have outerWhole : ∀ label, outer ≠ .ref label := by
        rintro label rfl
        cases read
      obtain ⟨top, listed, part⟩ := List.mem_flatMap.mp (ih outerWhole)
      exact List.mem_flatMap.mpr ⟨top, listed, Measure.mem_parts_of_operand top part read whole⟩

/-- Measures of one label are defined alike. -/
def Agree (definitions : List Measure) : Prop :=
  ∀ one ∈ definitions, ∀ other ∈ definitions, one.label = other.label → one.sameDefinition other = true

/-- Each operand of a measure has the label of a measure. -/
def Supplied (definitions : List Measure) : Prop :=
  ∀ measure ∈ definitions, ∀ operand, measure.Operand operand → operand.label ∈ definitions.map Measure.label

/-- Two definitions of one label differ, and the error names the label. -/
def Conflict (definitions : List Measure) (error : QueryError) : Prop :=
  ∃ one ∈ definitions, ∃ other ∈ definitions, one.label = other.label ∧ one.sameDefinition other = false ∧
    error = .duplicateMeasureLabel one.label

variable {all measures : List Measure}

theorem conflict_of_registerAll
    (each : ∀ measure ∈ measures, ∀ {arena : Arena} {error : QueryError},
      (∀ known ∈ arena.measures, known ∈ all) → arena.register measure = .error error → Conflict all error)
    (listed : ∀ measure ∈ measures, ∀ part ∈ measure.parts, part ∈ all) {arena : Arena} {error : QueryError}
    (within : ∀ known ∈ arena.measures, known ∈ all) (failed : arena.registerAll measures = .error error) :
    Conflict all error := by
  induction measures generalizing arena with
  | nil => cases failed
  | cons measure rest ih =>
    obtain ⟨ofMeasure, ofRest⟩ := List.forall_mem_cons.mp each
    obtain ⟨inMeasure, inRest⟩ := List.forall_mem_cons.mp listed
    rcases bind_eq_error.mp failed with first | ⟨next, first, later⟩
    · exact ofMeasure within first
    · exact ih ofRest inRest (forall_register measure within inMeasure first) later

/-- Only another definition of its label is in the way of a measure. -/
theorem conflict_of_register (measure : Measure) : (∀ part ∈ measure.parts, part ∈ all) →
    ∀ {arena : Arena} {error : QueryError}, (∀ known ∈ arena.measures, known ∈ all) →
      arena.register measure = .error error → Conflict all error := by
  induction measure using Measure.readInduction with
  | step measure ih =>
    intro listed arena error within failed
    rw [Measure.parts_eq] at listed
    rw [register_eq] at failed
    by_cases reference : measure.isReference = true
    · rw [if_pos reference] at failed
      cases failed
    · rw [if_neg reference] at listed failed
      obtain ⟨itself, below⟩ := List.forall_mem_cons.mp listed
      unfold add at failed
      split at failed
      next known found =>
        split at failed
        · cases failed
        next differs =>
          have sameLabel : measure.label = known.label := (label_of_find? found).symm
          refine ⟨measure, itself, known, within known (mem_of_find? found), sameLabel, ?_,
            (Except.error.inj failed).symm⟩
          rw [Measure.sameDefinition_iff] at differs
          rw [Bool.eq_false_iff, Ne, Measure.sameDefinition_iff]
          exact fun same => differs same.symm
      next =>
        have operands : ∀ operand ∈ measure.reads, ∀ part ∈ operand.parts, part ∈ all :=
          fun operand read part inOperand => below part (List.mem_flatMap.mpr ⟨operand, read, inOperand⟩)
        have withNew : ∀ other ∈ arena.measures ++ [measure], other ∈ all :=
          List.forall_mem_append.mpr ⟨within, List.forall_mem_singleton.mpr itself⟩
        exact conflict_of_registerAll (fun operand read => ih operand read (operands operand read)) operands
          withNew failed

theorem not_conflict_of_agree {error : QueryError} (agree : Agree all) : ¬Conflict all error := by
  rintro ⟨one, listed, other, otherListed, sameLabel, differs, -⟩
  rw [agree one listed other otherListed sameLabel] at differs
  cases differs

/-! ### Whole lists -/

theorem part_mem_definitions {measure : Measure} (listed : measure ∈ measures) :
    ∀ part ∈ measure.parts, part ∈ definitions measures :=
  fun _ inMeasure => List.mem_flatMap.mpr ⟨measure, listed, inMeasure⟩

theorem build_eq_ok {arena : Arena} :
    build measures = .ok arena ↔ empty.registerAll measures = .ok arena ∧ arena.dangling? = none := by
  unfold build
  rw [bind_eq_ok]
  constructor
  · rintro ⟨registered, all, rest⟩
    cases dangling : registered.dangling? with
    | some label => simp [dangling] at rest
    | none =>
      simp only [dangling, pure_eq_ok, Except.ok.injEq] at rest
      exact rest ▸ ⟨all, dangling⟩
  · rintro ⟨all, closed⟩
    exact ⟨arena, all, by simp [closed]⟩

/-- Each label has one measure, and all that is defined is held. -/
structure Collects (measures : List Measure) (arena : Arena) : Prop where
  distinct : arena.labels.Nodup
  within : ∀ known ∈ arena.measures, known ∈ definitions measures
  holds : ∀ measure ∈ definitions measures,
    ∃ known, arena.find? measure.label = some known ∧ known.plain = measure.plain

theorem collects_of_registerAll {arena : Arena} (registered : empty.registerAll measures = .ok arena) :
    Collects measures arena := by
  obtain ⟨grows, held⟩ := grows_registerAll (fun measure _ => grows_register measure) registered
  have backed : ∀ known ∈ arena.measures, ∀ operand ∈ known.reads, arena.Holds operand :=
    fun known listed => (grows.backed known listed).resolve_left List.not_mem_nil
  refine ⟨grows.distinct List.nodup_nil, ?_, fun part listed => ?_⟩
  · exact forall_registerAll registered (fun _ => part_mem_definitions)
      fun _ none => absurd none List.not_mem_nil
  · obtain ⟨measure, inList, inMeasure⟩ := List.mem_flatMap.mp listed
    refine holds_parts backed measure (held measure inList) part inMeasure ?_
    cases part with
    | ref label => exact absurd rfl (measure.parts_ne_ref _ inMeasure label)
    | _ => rfl

theorem Collects.mem_labels_iff {arena : Arena} (collects : Collects measures arena) {label : String} :
    label ∈ arena.labels ↔ label ∈ (definitions measures).map Measure.label := by
  constructor
  · intro listed
    obtain ⟨known, inArena, rfl⟩ := List.mem_map.mp listed
    exact List.mem_map_of_mem (collects.within known inArena)
  · intro listed
    obtain ⟨measure, defined, rfl⟩ := List.mem_map.mp listed
    obtain ⟨known, found, -⟩ := collects.holds measure defined
    exact exists_find?_iff.mp ⟨known, found⟩

theorem Collects.agree {arena : Arena} (collects : Collects measures arena) : Agree (definitions measures) := by
  intro one listed other otherListed sameLabel
  obtain ⟨known, found, same⟩ := collects.holds one listed
  obtain ⟨twin, twinFound, twinSame⟩ := collects.holds other otherListed
  rw [sameLabel, twinFound] at found
  obtain rfl := Option.some.inj found
  exact Measure.sameDefinition_iff.mpr (same.symm.trans twinSame)

/-- The arena lacks no operand just when the definitions do. -/
theorem Collects.dangling?_eq_none_iff {arena : Arena} (collects : Collects measures arena) :
    arena.dangling? = none ↔ Supplied (definitions measures) := by
  have lacks_iff : arena.dangling? = none ↔
      ∀ known ∈ arena.measures, ∀ label ∈ known.operands, label ∈ arena.labels := by
    unfold dangling?
    simp [List.find?_eq_none, ← exists_find?_iff, ← Option.isSome_iff_exists, Option.isSome_iff_ne_none]
  unfold Supplied
  rw [lacks_iff]
  simp only [collects.mem_labels_iff, ← Measure.forall_operands]
  constructor
  · intro closed measure defined label read
    obtain ⟨known, found, same⟩ := collects.holds measure defined
    exact closed known (mem_of_find? found) label (by rwa [Measure.operands_eq_of_plain same])
  · exact fun supplied known listed => supplied known (collects.within known listed)

theorem exists_build_iff :
    (∃ arena, build measures = .ok arena) ↔ Agree (definitions measures) ∧ Supplied (definitions measures) := by
  constructor
  · rintro ⟨arena, built⟩
    obtain ⟨registered, closed⟩ := build_eq_ok.mp built
    have collects := collects_of_registerAll registered
    exact ⟨collects.agree, collects.dangling?_eq_none_iff.mp closed⟩
  · rintro ⟨agree, supplied⟩
    cases registered : empty.registerAll measures with
    | error error =>
      have conflict := conflict_of_registerAll
        (fun measure listed => conflict_of_register measure (part_mem_definitions listed))
        (fun _ => part_mem_definitions) (fun _ none => absurd none List.not_mem_nil) registered
      exact absurd conflict (not_conflict_of_agree agree)
    | ok arena =>
      have collects := collects_of_registerAll registered
      exact ⟨arena, build_eq_ok.mpr ⟨registered, collects.dangling?_eq_none_iff.mpr supplied⟩⟩

/-- Two arenas have measures of the same labels, defined alike. -/
def Matches (one other : Arena) : Prop :=
  ∀ label, Option.Rel (fun known twin => known.sameDefinition twin = true) (one.find? label) (other.find? label)

/-- Arenas of the same definitions match, whatever the order of the lists that these come from. -/
theorem Collects.matches {others : List Measure} {arena other : Arena} (collects : Collects measures arena)
    (otherCollects : Collects others other)
    (same : ∀ measure, measure ∈ definitions measures ↔ measure ∈ definitions others) : arena.Matches other := by
  intro label
  cases found : arena.find? label with
  | some known =>
    have listed := (same known).mp (collects.within known (mem_of_find? found))
    obtain ⟨twin, twinFound, alike⟩ := otherCollects.holds known listed
    rw [label_of_find? found] at twinFound
    rw [twinFound]
    exact .some (Measure.sameDefinition_iff.mpr alike.symm)
  | none =>
    have absent : label ∉ other.labels := by
      rw [find?_eq_none_iff, collects.mem_labels_iff] at found
      rw [otherCollects.mem_labels_iff]
      intro listed
      obtain ⟨measure, defined, rfl⟩ := List.mem_map.mp listed
      exact found (List.mem_map_of_mem ((same measure).mpr defined))
    rw [find?_eq_none_iff.mpr absent]
    exact .none

theorem mem_definitions_perm {others : List Measure} (perm : others.Perm measures) (measure : Measure) :
    measure ∈ definitions measures ↔ measure ∈ definitions others :=
  (perm.flatMap_right _).mem_iff.symm

theorem exists_build_perm {others : List Measure} (perm : others.Perm measures) {arena : Arena}
    (built : build measures = .ok arena) : ∃ other, build others = .ok other := by
  obtain ⟨agree, supplied⟩ := exists_build_iff.mp ⟨arena, built⟩
  have same := mem_definitions_perm perm
  refine exists_build_iff.mpr ⟨fun one listed other otherListed => ?_, fun measure defined operand read => ?_⟩
  · exact agree one ((same one).mpr listed) other ((same other).mpr otherListed)
  · obtain ⟨definition, listed, labelled⟩ :=
      List.mem_map.mp (supplied measure ((same measure).mpr defined) operand read)
    exact labelled ▸ List.mem_map_of_mem ((same definition).mp listed)

theorem error_of_build {error : QueryError} (failed : build measures = .error error) :
    Conflict (definitions measures) error ∨ Agree (definitions measures) ∧
      ∃ measure ∈ definitions measures, ∃ operand, measure.Operand operand ∧
        operand.label ∉ (definitions measures).map Measure.label ∧ error = .unknownMeasure operand.label := by
  rcases bind_eq_error.mp failed with conflict | ⟨arena, registered, rest⟩
  · exact .inl (conflict_of_registerAll
      (fun measure listed => conflict_of_register measure (part_mem_definitions listed))
      (fun _ => part_mem_definitions) (fun _ none => absurd none List.not_mem_nil) conflict)
  · have collects := collects_of_registerAll registered
    cases dangling : arena.dangling? with
    | none => simp [dangling] at rest
    | some label =>
      simp only [dangling, throw_eq_error, Except.error.injEq] at rest
      obtain ⟨known, listed, read⟩ := List.mem_flatMap.mp (List.mem_of_find?_eq_some dangling)
      have absent : arena.find? label = none := by simpa using List.find?_some dangling
      rw [find?_eq_none_iff, collects.mem_labels_iff] at absent
      rw [Measure.operands_eq] at read
      obtain ⟨operand, operandRead, rfl⟩ := List.mem_map.mp read
      exact .inr ⟨collects.agree, known, collects.within known listed, operand, Measure.mem_reads.mp operandRead,
        absent, rest.symm⟩

/-- The arena of a list of measures is built if and only if its definitions of each label agree and each operand of
one of them is defined; an error names a label of two definitions or one that is not defined. The definitions are
all that occurs in the list but references. The arena has one measure for each label that is defined, the definition
of all measures of the label, and the operands of each measure are found in it. Another order of the list leads to a
matching arena. -/
theorem holds_each_definition_once (measures : List Measure) :
    (∀ measure, measure ∈ definitions measures ↔ Occurs measures measure ∧ ∀ label, measure ≠ .ref label) ∧
      ((∃ arena, build measures = .ok arena) ↔ Agree (definitions measures) ∧ Supplied (definitions measures)) ∧
      (∀ error, build measures = .error error →
        Conflict (definitions measures) error ∨ Agree (definitions measures) ∧
          ∃ measure ∈ definitions measures, ∃ operand, measure.Operand operand ∧
            operand.label ∉ (definitions measures).map Measure.label ∧ error = .unknownMeasure operand.label) ∧
      ∀ arena, build measures = .ok arena →
        arena.labels.Nodup ∧
        (∀ label, label ∈ arena.labels ↔ label ∈ (definitions measures).map Measure.label) ∧
        (∀ known ∈ arena.measures, known ∈ definitions measures ∧ arena.get known.label = .ok known ∧
          ∀ operand, known.Operand operand → ∃ found, arena.get operand.label = .ok found) ∧
        (∀ measure ∈ definitions measures, ∃ known, arena.get measure.label = .ok known ∧
          known.sameDefinition measure = true) ∧
        ∀ others : List Measure, others.Perm measures →
          ∃ other, build others = .ok other ∧ arena.Matches other := by
  refine ⟨fun _ => mem_definitions, exists_build_iff, fun error => error_of_build, fun arena built => ?_⟩
  have collects := collects_of_registerAll (build_eq_ok.mp built).1
  refine ⟨collects.distinct, fun label => collects.mem_labels_iff, fun known listed => ?_,
    fun measure defined => ?_, fun others perm => ?_⟩
  · obtain ⟨first, found⟩ := exists_find?_iff.mpr (List.mem_map_of_mem (f := Measure.label) listed)
    have itself : first = known :=
      List.inj_on_of_nodup_map collects.distinct (mem_of_find? found) listed (label_of_find? found)
    have operandsFound : ∀ label ∈ known.operands, ∃ operand, arena.get label = .ok operand := by
      intro label read
      obtain ⟨operand, operandFound⟩ := closed_of_build built known listed label read
      exact ⟨operand, get_eq_ok.mpr operandFound⟩
    exact ⟨collects.within known listed, get_eq_ok.mpr (itself ▸ found), Measure.forall_operands.mp operandsFound⟩
  · obtain ⟨known, found, same⟩ := collects.holds measure defined
    exact ⟨known, get_eq_ok.mpr found, Measure.sameDefinition_iff.mpr same⟩
  · obtain ⟨other, otherBuilt⟩ := exists_build_perm perm built
    have otherCollects := collects_of_registerAll (build_eq_ok.mp otherBuilt).1
    exact ⟨other, otherBuilt, collects.matches otherCollects (mem_definitions_perm perm)⟩

end Arena

/-! ### A share and its parts -/

def priceMeasure : Measure := .aggregated "price" (.ofName "price") "sum" none

/-- What prices by date lead to. -/
def pricesUpTo (transformer : String) : Measure :=
  .vector "prices" [(.ofName "price", "sum")] (.ofName "date") (some transformer)

def totalMeasure : Measure := .binary "total" .plus priceMeasure priceMeasure

/-- A price among the total, which is referred to before it is defined. The price is there three times, and
the prices by date twice, with different transformers. -/
def priceMeasures : List Measure :=
  [.binary "share" .divide priceMeasure (.ref "total"), pricesUpTo "last", totalMeasure, pricesUpTo "first"]

theorem priceMeasures_built : Arena.build priceMeasures =
    .ok ⟨[.binary "share" .divide priceMeasure (.ref "total"), priceMeasure, pricesUpTo "last",
      .aggregated "__prices_0__" (.ofName "price") "sum" none, totalMeasure]⟩ :=
  Arena.build_eq_ok.mpr ⟨by cbv, by decide +kernel⟩

/-- A share of a total that is nowhere defined. -/
def loneShare : List Measure := [.binary "share" .divide priceMeasure (.ref "total")]

/-- The prices are held once each, in either order, and the share alone is refused for the total that it refers to. -/
theorem Arena.prices_held_once :
    (∃ arena, build priceMeasures = .ok arena ∧ arena.get "prices" = .ok (pricesUpTo "last") ∧
      (∃ operand, arena.get "__prices_0__" = .ok operand) ∧
      ∃ other, build priceMeasures.reverse = .ok other ∧ other.get "prices" = .ok (pricesUpTo "first") ∧
        arena.Matches other) ∧
      build loneShare = .error (.unknownMeasure "total") ∧ ¬Supplied (definitions loneShare) := by
  constructor
  · obtain ⟨-, -, stored, -, order⟩ := (holds_each_definition_once priceMeasures).2.2.2 _ priceMeasures_built
    obtain ⟨-, prices, operands⟩ := stored (pricesUpTo "last") (by simp)
    obtain ⟨other, reversed, alike⟩ := order priceMeasures.reverse (List.reverse_perm _)
    have component := operands _ (.component (List.getElem?_cons_zero))
    refine ⟨_, priceMeasures_built, prices, component, other, reversed, ?_, alike⟩
    have registered := (build_eq_ok.mp reversed).1
    obtain rfl := Except.ok.inj (registered.symm.trans (by cbv))
    rfl
  · obtain ⟨-, built_iff, -⟩ := holds_each_definition_once loneShare
    have refused : build loneShare = .error (.unknownMeasure "total") := rfl
    have agree : Agree (definitions loneShare) := by
      unfold Agree
      decide +kernel
    refine ⟨refused, fun supplied => ?_⟩
    obtain ⟨arena, built⟩ := built_iff.mpr ⟨agree, supplied⟩
    cases refused.symm.trans built

end CubeQuery
