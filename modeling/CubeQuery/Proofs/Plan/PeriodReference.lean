import CubeQuery.Memory.Row
import CubeQuery.Plan.Lowering
import CubeQuery.Proofs.Plan.DerivedScopes
import CubeQuery.Sample.Sales

/-! The rows that a period is compared over. Criteria on the fields of the period are dropped from the
scope, which lets a row of another period in wherever dropping them weakens the criteria. It does so in
a conjunction. Of the choices of an `or` it does so only if none of them is dropped as a whole, or all
are: a choice that is dropped alone takes the rows with it that met no other. -/

namespace CubeQuery

open Steps

/-! ### What fields read -/

/-- The column of a row that a field reads. Literals and expressions read none. -/
def TypedField.cellName? : TypedField → Option String
  | .column _ name _ _ => some name
  | .labelled label _ => some label
  | .constant _ | .function _ => none

theorem Row.read_congr {row other : Row} {field : TypedField}
    (same : ∀ name, field.cellName? = some name → row.get name = other.get name) :
    row.read field = other.read field := by
  cases field with
  | column store name type label => exact same name rfl
  | labelled label type => exact same label rfl
  | constant | function => rfl

/-- A field of the query reads a column of the rows. -/
def Resolver.Reads (resolver : Resolver) (field : Field) (name : String) : Prop :=
  ∃ typed, resolver.resolve field = .ok typed ∧ typed.cellName? = some name

/-- Two rows with the same cells outside of the columns that some fields read. -/
def Row.AgreesOutside (row other : Row) (resolver : Resolver) (fields : List Field) : Prop :=
  ∀ name, (∀ field ∈ fields, ¬resolver.Reads field name) → row.get name = other.get name

namespace Criteria

/-! ### Choices -/

mutual

/-- Whether every `or` that remains keeps all of its choices, once the leaves on some fields are
dropped. -/
def keepsChoices (dropped : List Field) : Criteria → Bool
  | .logical type children =>
    (listWithoutFields dropped children).isEmpty
      || (type ≠ .or || children.all fun child => (child.withoutFields dropped).isSome)
        && listKeepsChoices dropped children
  | _ => true

def listKeepsChoices (dropped : List Field) : List Criteria → Bool
  | [] => true
  | child :: rest => child.keepsChoices dropped && listKeepsChoices dropped rest

end

/-! ### What remains -/

variable {resolver : Resolver} {dropped : List Field} {row other : Row}

/-- A leaf that is not dropped reads the same cell in both rows. -/
def LeavesAgree (resolver : Resolver) (dropped : List Field) (row other : Row) (leaves : List Field) :
    Prop :=
  ∀ field ∈ leaves, field ∉ dropped → ∀ name, resolver.Reads field name → row.get name = other.get name

/-- What remains of criteria can be lowered as they can, and a second row meets it if a first one meets
all of them. -/
def Weakens (resolver : Resolver) (row other : Row) (typed : TypedCriteria) (rest : Option Criteria) :
    Prop :=
  ∀ met, typed.matches row = .ok met → ∀ kept, rest = some kept →
    ∃ typedKept, kept.lower resolver = .ok typedKept ∧
      ∃ still, typedKept.matches other = .ok still ∧ (met = true → still = true)

/-- The same for the children of a node: all of them are met again, and so is one of them if none has
been dropped. -/
def ListWeakens (resolver : Resolver) (row other : Row) (typed : List TypedCriteria)
    (complete : Bool) (rest : List Criteria) : Prop :=
  ∀ met, TypedCriteria.matchesList row typed = .ok met →
    ∃ typedRest, lowerList resolver rest = .ok typedRest ∧
      ∃ still, TypedCriteria.matchesList other typedRest = .ok still ∧
        (met.all id = true → still.all id = true) ∧
        (complete = true → met.any id = true → still.any id = true)

theorem matches_logical {type : ConditionType} {children : List TypedCriteria} {met : Bool} :
    (TypedCriteria.logical type children).matches row = .ok met ↔
      ∃ results, TypedCriteria.matchesList row children = .ok results ∧
        met = if type = .or then results.any id else results.all id := by
  unfold TypedCriteria.matches
  rw [bind_eq_ok]
  exact exists_congr fun results => and_congr_right fun _ =>
    ⟨fun same => (Except.ok.inj same).symm, fun same => congrArg Except.ok same.symm⟩

theorem Weakens.logical {type : ConditionType} {children : List TypedCriteria} {complete : Bool}
    {rest : List Criteria} (weakens : ListWeakens resolver row other children complete rest)
    (choices : type = .or → complete = true) :
    Weakens resolver row other (.logical type children) (some (.logical type rest)) := by
  intro met result kept same
  obtain rfl := Option.some.inj same
  obtain ⟨results, results_eq, rfl⟩ := matches_logical.mp result
  obtain ⟨typedRest, lowered, still, still_eq, all, any⟩ := weakens results results_eq
  refine ⟨.logical type typedRest, ?_, _, matches_logical.mpr ⟨still, still_eq, rfl⟩, ?_⟩
  · unfold lower
    rw [lowered]
    rfl
  · split
    · next isOr => exact any (choices isOr)
    · exact all

theorem ListWeakens.cons {first : TypedCriteria} {others : List TypedCriteria} {complete : Bool}
    {child : Option Criteria} {rest : List Criteria} (here : Weakens resolver row other first child)
    (later : ListWeakens resolver row other others complete rest) :
    ListWeakens resolver row other (first :: others) (child.isSome && complete)
      (child.elim rest (· :: rest)) := by
  intro met result
  unfold TypedCriteria.matchesList at result
  obtain ⟨head, head_eq, result⟩ := bind_eq_ok.mp result
  obtain ⟨tail, tail_eq, result⟩ := bind_eq_ok.mp result
  obtain rfl := Except.ok.inj result
  obtain ⟨typedRest, lowered, still, still_eq, all, any⟩ := later tail tail_eq
  cases child with
  | none =>
    refine ⟨typedRest, lowered, still, still_eq, fun every => all ?_, nofun⟩
    exact (Bool.and_eq_true_iff.mp every).2
  | some kept =>
    obtain ⟨typedKept, keptLowered, stillHead, stillHead_eq, headAgain⟩ := here head head_eq kept rfl
    refine ⟨typedKept :: typedRest, ?_, stillHead :: still, ?_, fun every => ?_, fun complete some => ?_⟩
    · show lowerList resolver (kept :: rest) = _
      unfold lowerList
      rw [keptLowered, ok_bind, lowered]
      rfl
    · unfold TypedCriteria.matchesList
      rw [stillHead_eq, ok_bind, still_eq]
      rfl
    · obtain ⟨headMet, tailMet⟩ := Bool.and_eq_true_iff.mp every
      exact Bool.and_eq_true_iff.mpr ⟨headAgain headMet, all tailMet⟩
    · rcases Bool.or_eq_true_iff.mp some with headMet | tailMet
      · exact Bool.or_eq_true_iff.mpr (.inl (headAgain headMet))
      · exact Bool.or_eq_true_iff.mpr (.inr (any complete tailMet))

theorem listWithoutFields_cons (dropped : List Field) (child : Criteria) (rest : List Criteria) :
    listWithoutFields dropped (child :: rest) =
      (child.withoutFields dropped).elim (listWithoutFields dropped rest)
        (· :: listWithoutFields dropped rest) := by
  rw [listWithoutFields]
  cases child.withoutFields dropped <;> rfl

mutual

/-- Criteria whose choices are kept become weaker by what is dropped. By induction on the tree: a leaf is
dropped or reads the same cell in both rows, and a node is as weak as its children. -/
theorem weakens_withoutFields : (criteria : Criteria) → criteria.keepsChoices dropped = true →
    LeavesAgree resolver dropped row other criteria.fields → (typed : TypedCriteria) →
    criteria.lower resolver = .ok typed →
    Weakens resolver row other typed (criteria.withoutFields dropped)
  | .onField field condition, _, agree, typed, lowered => by
    obtain ⟨resolved, resolves, lowered⟩ := bind_eq_ok.mp lowered
    obtain rfl := Except.ok.inj lowered
    intro met result kept remains
    unfold withoutFields at remains
    split at remains
    · cases remains
    · next outside =>
      obtain rfl := Option.some.inj remains
      have cell : row.read resolved = other.read resolved := Row.read_congr fun name reads =>
        agree field (List.mem_singleton_self _) outside name ⟨resolved, resolves, reads⟩
      refine ⟨.onField resolved condition, ?_, met, ?_, id⟩
      · unfold lower
        rw [resolves]
        rfl
      · rw [← result]
        unfold TypedCriteria.matches
        rw [cell]
  | .onPair left right type, _, _, typed, lowered => by
    obtain ⟨first, -, lowered⟩ := bind_eq_ok.mp lowered
    obtain ⟨second, -, lowered⟩ := bind_eq_ok.mp lowered
    obtain rfl := Except.ok.inj lowered
    exact fun met result => nomatch result
  | .onMeasure measure condition, _, _, typed, lowered => by
    unfold lower at lowered
    split at lowered
    · obtain ⟨lower, -, lowered⟩ := bind_eq_ok.mp lowered
      obtain rfl := Except.ok.inj lowered
      exact fun met result => nomatch result
    · cases lowered
  | .logical type children, keeps, agree, typed, lowered => by
    obtain ⟨typedChildren, childrenLowered, lowered⟩ := bind_eq_ok.mp lowered
    obtain rfl := Except.ok.inj lowered
    unfold withoutFields
    cases remaining : listWithoutFields dropped children with
    | nil => exact fun met _ kept remains => nomatch remains
    | cons first others =>
      unfold keepsChoices at keeps
      rw [remaining] at keeps
      obtain ⟨choices, inner⟩ := Bool.and_eq_true_iff.mp keeps
      have weakens := listWeakens_withoutFields children inner agree typedChildren childrenLowered
      rw [remaining] at weakens
      refine Weakens.logical weakens fun isOr => ?_
      simpa [isOr] using choices

theorem listWeakens_withoutFields : (children : List Criteria) →
    listKeepsChoices dropped children = true →
    LeavesAgree resolver dropped row other (fieldsOfList children) → (typed : List TypedCriteria) →
    lowerList resolver children = .ok typed →
    ListWeakens resolver row other typed
      (children.all fun child => (child.withoutFields dropped).isSome) (listWithoutFields dropped children)
  | [], _, _, typed, lowered => by
    obtain rfl := Except.ok.inj lowered
    intro met result
    obtain rfl := Except.ok.inj result
    exact ⟨[], rfl, [], rfl, id, fun _ => id⟩
  | child :: rest, keeps, agree, typed, lowered => by
    obtain ⟨first, firstLowered, lowered⟩ := bind_eq_ok.mp lowered
    obtain ⟨others, othersLowered, lowered⟩ := bind_eq_ok.mp lowered
    obtain rfl := Except.ok.inj lowered
    obtain ⟨keepsHere, keepsLater⟩ := Bool.and_eq_true_iff.mp keeps
    rw [listWithoutFields_cons]
    exact ListWeakens.cons
      (weakens_withoutFields child keepsHere (fun field leaf => agree field (List.mem_append_left _ leaf))
        first firstLowered)
      (listWeakens_withoutFields rest keepsLater
        (fun field leaf => agree field (List.mem_append_right _ leaf)) others othersLowered)

end

end Criteria

/-! ### Reference rows -/

/-- Two rows that differ in the columns of a period alone: if one is admitted by a scope, the other is
admitted by the scope that the period is compared over. The fields of the period must be written in
the criteria as the period writes them, since a field is dropped by how it is written and not by the
column it reads; and the choices of an `or` must be dropped together. -/
theorem Scope.forComparison_admits {datastore : Datastore} {scope reference : Scope} {label : String}
    {period : Period} {columnSet : Option ColumnSetKey} {ancestors : Option (List Field)}
    {resolver : Resolver} {filter : Option TypedCriteria} {row other : Row}
    (found : scope.forComparison label (some period) columnSet ancestors = .ok reference)
    (resolved : Resolver.ofScope datastore scope = .ok resolver)
    (lowered : Criteria.lowerOption resolver scope.whereCriteria = .ok filter)
    (choices : scope.whereCriteria.all (Criteria.keepsChoices period.fields) = true)
    (written : ∀ criteria ∈ scope.whereCriteria, ∀ field ∈ criteria.fields, ∀ name,
      resolver.Reads field name → ∀ own ∈ period.fields, resolver.Reads own name →
        field ∈ period.fields)
    (agree : row.AgreesOutside other resolver period.fields)
    (admitted : TypedCriteria.matchesOption row filter = .ok true) :
    ∃ referenceFilter, Resolver.ofScope datastore reference = .ok resolver ∧
      Criteria.lowerOption resolver reference.whereCriteria = .ok referenceFilter ∧
      TypedCriteria.matchesOption other referenceFilter = .ok true := by
  rcases Scope.forComparison_cases found with
    ⟨calendar, period_eq, -, rfl⟩ | ⟨_, none_eq, -⟩ | ⟨none_eq, -⟩
  · obtain rfl := Option.some.inj period_eq
    have pruned : (scope.forPeriod period).whereCriteria =
        scope.whereCriteria.bind (Criteria.withoutFields period.fields) := rfl
    rw [pruned]
    cases whole : scope.whereCriteria with
    | none => exact ⟨none, resolved, rfl, rfl⟩
    | some criteria =>
      rw [whole] at lowered choices
      obtain ⟨typed, criteriaLowered, lowered⟩ := bind_eq_ok.mp lowered
      obtain rfl := Except.ok.inj lowered
      have leaves : Criteria.LeavesAgree resolver period.fields row other criteria.fields := by
        intro field leaf outside name reads
        refine agree name fun own listed ownReads => outside ?_
        exact written criteria whole field leaf name reads own listed ownReads
      have weakens := Criteria.weakens_withoutFields criteria choices leaves typed criteriaLowered
      cases remaining : criteria.withoutFields period.fields with
      | none => exact ⟨none, resolved, by rw [Option.bind_some, remaining]; rfl, rfl⟩
      | some kept =>
        obtain ⟨typedKept, keptLowered, still, still_eq, again⟩ :=
          weakens true admitted kept remaining
        refine ⟨some typedKept, resolved, ?_, ?_⟩
        · rw [Option.bind_some, remaining]
          unfold Criteria.lowerOption
          rw [keptLowered]
          rfl
        · rw [again rfl] at still_eq
          exact still_eq
  · cases none_eq
  · cases none_eq

/-- Sales of one year in two scenarios. -/
def yearOfTwoScenarios (year : Int64) : Criteria :=
  .logical .and
    [.onField (.ofName "year") (.single .eq (.int year)),
     .logical .or
       [.onField (.ofName "scenario") (.single .eq (.str "base")),
        .onField (.ofName "scenario") (.single .eq (.str "s1"))]]

def typedYearOfTwoScenarios (year : Int64) : TypedCriteria :=
  .logical .and
    [.onField (.column none "year" .long none) (.single .eq (.int year)),
     .logical .or
       [.onField (.column none "scenario" .string none) (.single .eq (.str "base")),
        .onField (.column none "scenario" .string none) (.single .eq (.str "s1"))]]

/-- A scope of sales by year. -/
def salesByYear (filter : Criteria) : Scope :=
  .ofQuery { Query.empty with
    table := some (.ofName "sales")
    columns := [.ofName "year"]
    whereCriteria := some filter }

def salesResolver : Resolver := ⟨Sales.datastore, ["sales"], [], none⟩

/-- A sale of a scenario in a year. -/
def saleIn (scenario : String) (year : Int64) : Row := [("scenario", .str scenario), ("year", .int year)]

theorem salesResolver_reads {column name : String} {type : FieldType}
    (resolves : salesResolver.resolve (.ofName column) = .ok (.column none column type none)) :
    salesResolver.Reads (.ofName column) name ↔ name = column := by
  constructor
  · rintro ⟨typed, other, reads⟩
    obtain rfl := Except.ok.inj (resolves.symm.trans other)
    exact (Option.some.inj reads).symm
  · rintro rfl
    exact ⟨_, resolves, rfl⟩

/-- The sale of the year before is compared with, though the filter asks for one year. -/
theorem salesByYear_admits_yearBefore :
    TypedCriteria.matchesOption (saleIn "s1" 2023) (some (typedYearOfTwoScenarios 2023)) = .ok true ∧
      ∃ referenceFilter,
        Resolver.ofScope Sales.datastore
            ((salesByYear (yearOfTwoScenarios 2023)).forPeriod (.year (.ofName "year"))) =
          .ok salesResolver ∧
        Criteria.lowerOption salesResolver
            ((salesByYear (yearOfTwoScenarios 2023)).forPeriod (.year (.ofName "year"))).whereCriteria =
          .ok referenceFilter ∧
        TypedCriteria.matchesOption (saleIn "s1" 2022) referenceFilter = .ok true := by
  have yearResolved : salesResolver.resolve (.ofName "year") = .ok (.column none "year" .long none) := rfl
  have scenarioResolved :
      salesResolver.resolve (.ofName "scenario") = .ok (.column none "scenario" .string none) := rfl
  have found : (salesByYear (yearOfTwoScenarios 2023)).forComparison "growth"
      (some (.year (.ofName "year"))) none none =
        .ok ((salesByYear (yearOfTwoScenarios 2023)).forPeriod (.year (.ofName "year"))) := rfl
  have lowered : Criteria.lowerOption salesResolver (some (yearOfTwoScenarios 2023)) =
      .ok (some (typedYearOfTwoScenarios 2023)) := rfl
  have admitted : TypedCriteria.matchesOption (saleIn "s1" 2023)
      (some (typedYearOfTwoScenarios 2023)) = .ok true := rfl
  refine ⟨admitted, Scope.forComparison_admits found rfl lowered (by decide) ?_ ?_ admitted⟩
  · rintro criteria same field leaf name reads own listed ownReads
    obtain rfl := Option.some.inj same
    obtain rfl := List.mem_singleton.mp listed
    rcases List.mem_cons.mp leaf with rfl | leaf
    · exact List.mem_singleton_self _
    · have isScenario : field = .ofName "scenario" := by
        simpa [Criteria.fields, Criteria.fieldsOfList] using leaf
      rw [isScenario, salesResolver_reads scenarioResolved] at reads
      have both : name = "year" := (salesResolver_reads yearResolved).mp ownReads
      exact absurd (reads.symm.trans both) (by decide)
  · intro name outside
    have other : name ≠ "year" := fun same =>
      outside _ (List.mem_singleton_self _) ((salesResolver_reads yearResolved).mpr same)
    have left : (name == "year") = false := beq_eq_false_iff_ne.mpr other
    unfold saleIn Row.get
    simp [List.lookup_cons, left]

/-- A choice that is dropped alone: the year before is refused, though the sale of this year was
admitted for its year. -/
example :
    let filter : Criteria := .logical .or
      [.onField (.ofName "year") (.single .eq (.int 2023)),
       .onField (.ofName "scenario") (.single .eq (.str "base"))]
    filter.keepsChoices [.ofName "year"] = false ∧
      (filter.lower salesResolver >>= TypedCriteria.matches (saleIn "s1" 2023)) = .ok true ∧
      (Criteria.lowerOption salesResolver (filter.withoutFields [.ofName "year"]) >>=
        TypedCriteria.matchesOption (saleIn "s1" 2022)) = .ok false := by
  decide

end CubeQuery
