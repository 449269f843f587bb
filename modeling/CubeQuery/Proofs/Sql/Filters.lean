import CubeQuery.Proofs.Sql.Precedence
import CubeQuery.Proofs.Sql.Support

/-! What the texts of filters and joins say. There is a text where there is something to test; and read as SQL
reads it, with the truth of each test given, the text is as true as the criteria. -/

namespace CubeQuery

open Steps Predicate

variable {dialect : Dialect}

/-! ### Leaves -/

namespace Condition

/-- The comparisons, from left to right. -/
def tests : Condition → List Condition
  | .logical _ one two => one.tests ++ two.tests
  | condition => [condition]

/-- The truth of a condition whose tests are numbered from a start. -/
def holdsFrom (truth : Nat → Bool) (start : Nat) : Condition → Bool
  | .logical type one two =>
    join type [one.holdsFrom truth start, two.holdsFrom truth (start + one.tests.length)]
  | _ => truth start

theorem tests_ne_nil (condition : Condition) : condition.tests ≠ [] := by
  induction condition with
  | logical type one two oneIh _ =>
    unfold tests
    exact List.append_ne_nil_of_left_ne_nil oneIh _
  | _ => exact List.cons_ne_nil _ _

end Condition

mutual

/-- The comparisons of criteria, from left to right, each as criteria of its own. -/
def TypedCriteria.leaves : TypedCriteria → List TypedCriteria
  | .onField field condition => condition.tests.map (.onField field)
  | .onPair left right type => [.onPair left right type]
  | .onMeasure measure condition => condition.tests.map (.onMeasure measure)
  | .logical _ children => TypedCriteria.leavesOf children

def TypedCriteria.leavesOf : List TypedCriteria → List TypedCriteria
  | [] => []
  | child :: rest => child.leaves ++ TypedCriteria.leavesOf rest

end

mutual

/-- The truth of criteria whose leaves are numbered from a start. Those without leaves have none and are left
out. -/
def TypedCriteria.value? (truth : Nat → Bool) (start : Nat) : TypedCriteria → Option Bool
  | .onField _ condition | .onMeasure _ condition => some (condition.holdsFrom truth start)
  | .onPair _ _ _ => some (truth start)
  | .logical type children =>
    match TypedCriteria.valuesFrom truth start children with
    | [] => none
    | values => some (join type values)

def TypedCriteria.valuesFrom (truth : Nat → Bool) (start : Nat) : List TypedCriteria → List Bool
  | [] => []
  | child :: rest =>
    (child.value? truth start).toList ++ TypedCriteria.valuesFrom truth (start + child.leaves.length) rest

end

mutual

/-- Criteria that can be written have a text unless they have no leaves. -/
theorem TypedCriteria.sql_eq_none_iff : (criteria : TypedCriteria) → {result : Option String} →
    criteria.sql dialect = .ok result → (result = none ↔ criteria.leaves = [])
  | .onField field condition, result, made => by
    obtain ⟨_, -, made⟩ := bind_eq_ok.mp made
    obtain ⟨text, -, made⟩ := bind_eq_ok.mp made
    obtain rfl := Except.ok.inj made
    simp [TypedCriteria.leaves, condition.tests_ne_nil]
  | .onPair left right type, result, made => by
    obtain ⟨_, -, made⟩ := bind_eq_ok.mp made
    obtain ⟨_, -, made⟩ := bind_eq_ok.mp made
    obtain ⟨_, -, made⟩ := bind_eq_ok.mp made
    obtain rfl := Except.ok.inj made
    simp [TypedCriteria.leaves]
  | .onMeasure measure condition, result, made => by
    obtain ⟨_, -, made⟩ := bind_eq_ok.mp made
    obtain ⟨text, -, made⟩ := bind_eq_ok.mp made
    obtain rfl := Except.ok.inj made
    simp [TypedCriteria.leaves, condition.tests_ne_nil]
  | .logical type children, result, made => by
    obtain ⟨_, -, made⟩ := bind_eq_ok.mp made
    obtain ⟨parts, partsMade, made⟩ := bind_eq_ok.mp made
    unfold TypedCriteria.leaves
    rw [← TypedCriteria.parts_eq_nil_iff children partsMade]
    cases parts <;> simp [← Except.ok.inj made]

theorem TypedCriteria.parts_eq_nil_iff : (children : List TypedCriteria) → {parts : List String} →
    TypedCriteria.parts dialect children = .ok parts → (parts = [] ↔ TypedCriteria.leavesOf children = [])
  | [], parts, made => by
    rw [← Except.ok.inj made]
    exact iff_of_true rfl rfl
  | child :: rest, parts, made => by
    obtain ⟨part, partMade, made⟩ := bind_eq_ok.mp made
    obtain ⟨others, othersMade, made⟩ := bind_eq_ok.mp made
    obtain rfl := Except.ok.inj made
    unfold TypedCriteria.leavesOf
    rw [List.append_eq_nil_iff, List.append_eq_nil_iff, ← child.sql_eq_none_iff partMade,
      TypedCriteria.parts_eq_nil_iff rest othersMade, Option.toList_eq_nil_iff]

end

mutual

theorem TypedCriteria.value?_eq_none (truth : Nat → Bool) : (criteria : TypedCriteria) → (start : Nat) →
    (criteria.value? truth start = none ↔ criteria.leaves = [])
  | .onField field condition, start => by
    simp [TypedCriteria.value?, TypedCriteria.leaves, condition.tests_ne_nil]
  | .onPair left right type, start => by simp [TypedCriteria.value?, TypedCriteria.leaves]
  | .onMeasure measure condition, start => by
    simp [TypedCriteria.value?, TypedCriteria.leaves, condition.tests_ne_nil]
  | .logical type children, start => by
    unfold TypedCriteria.value? TypedCriteria.leaves
    rw [← TypedCriteria.valuesFrom_eq_nil truth children start]
    cases TypedCriteria.valuesFrom truth start children <;> simp

theorem TypedCriteria.valuesFrom_eq_nil (truth : Nat → Bool) : (children : List TypedCriteria) → (start : Nat) →
    (TypedCriteria.valuesFrom truth start children = [] ↔ TypedCriteria.leavesOf children = [])
  | [], start => iff_of_true rfl rfl
  | child :: rest, start => by
    unfold TypedCriteria.valuesFrom TypedCriteria.leavesOf
    rw [List.append_eq_nil_iff, List.append_eq_nil_iff, Option.toList_eq_nil_iff,
      child.value?_eq_none truth start, TypedCriteria.valuesFrom_eq_nil truth rest _]

end

/-! ### Texts -/

/-- Tokens that are spelled as a text and whose tests are the texts of the leaves, in order. -/
structure Covers (dialect : Dialect) (leaves : List TypedCriteria) (text : String) (tokens : List Token) : Prop where
  spelled : spell tokens = text
  tests : List.Forall₂ (fun leaf test => leaf.sql dialect = .ok (some test)) leaves (tests tokens)

namespace Covers

variable {leaves others : List TypedCriteria} {text more : String} {tokens next : List Token}

theorem append (covers : Covers dialect leaves text tokens) (rest : Covers dialect others more next) :
    Covers dialect (leaves ++ others) (text ++ more) (tokens ++ next) where
  spelled := by
    unfold spell
    rw [List.map_append, String.join_append]
    exact congrArg₂ _ covers.spelled rest.spelled
  tests := by
    unfold Predicate.tests
    rw [List.filterMap_append]
    exact List.rel_append covers.tests rest.tests

theorem test {leaf : TypedCriteria} (written : leaf.sql dialect = .ok (some text)) :
    Covers dialect [leaf] text [.test text] := ⟨by simp [spell, Token.text], .cons written .nil⟩

theorem connective (word : Connective) : Covers dialect [] (separator word.type) [.connective word] :=
  ⟨by simp [spell, Token.text, word.separator_type], .nil⟩

/-- The tests are the only texts of the leaves. -/
theorem tests_eq (covers : Covers dialect leaves text tokens) {texts : List String}
    (written : List.Forall₂ (fun leaf test => leaf.sql dialect = .ok (some test)) leaves texts) :
    Predicate.tests tokens = texts :=
  Relator.RightUnique.forall₂ (fun _ _ _ one other => Option.some.inj (Except.ok.inj (one.symm.trans other)))
    covers.tests written

theorem enclosed (covers : Covers dialect leaves text tokens) :
    Covers dialect leaves ("(" ++ text ++ ")") ([.opening] ++ tokens ++ [.closing]) := by
  have opening : Covers dialect [] "(" [.opening] := ⟨by simp [spell, Token.text], .nil⟩
  have closing : Covers dialect [] ")" [.closing] := ⟨by simp [spell, Token.text], .nil⟩
  simpa using (opening.append covers).append closing

end Covers

theorem intercalate_cons (between part : String) (parts : List String) :
    between.intercalate (part :: parts) = part ++ String.join (parts.map (between ++ ·)) := by
  induction parts generalizing part with
  | nil => simp
  | cons next rest ih =>
    rw [String.intercalate_cons_cons, ih, List.map_cons, String.join_cons]
    simp only [String.append_assoc]

/-- The text of a condition is one operand, whose tests are the comparisons of the condition. -/
theorem Condition.exists_tokens {expression : String} {literal : Value → Except QueryError String}
    {leaf : Condition → TypedCriteria}
    (leaf_sql : ∀ {test : Condition} {text : String}, test.check = .ok () →
      test.render expression literal = .ok text → (leaf test).sql dialect = .ok (some text))
    {condition : Condition} {text : String} (checked : condition.check = .ok ())
    (rendered : condition.render expression literal = .ok text) :
    ∃ tokens, Covers dialect (condition.tests.map leaf) text tokens ∧ ∀ truth start,
      ReadsOperand truth tokens start condition.tests.length (condition.holdsFrom truth start) := by
  induction condition generalizing text with
  | logical type one two oneIh twoIh =>
    obtain ⟨logical, parts⟩ := List.forall_mem_cons.mp (check_eq_ok.mp checked)
    obtain ⟨oneChecked, twoChecked⟩ := List.forall_mem_append.mp parts
    obtain ⟨first, firstMade, rendered⟩ := bind_eq_ok.mp rendered
    obtain ⟨second, secondMade, rendered⟩ := bind_eq_ok.mp rendered
    obtain rfl := Except.ok.inj rendered
    obtain ⟨tokens, covers, reads⟩ := oneIh (check_eq_ok.mpr oneChecked) firstMade
    obtain ⟨others, otherCovers, otherReads⟩ := twoIh (check_eq_ok.mpr twoChecked) secondMade
    obtain ⟨word, rfl⟩ := Connective.exists_type_eq logical
    refine ⟨[.opening] ++ (tokens ++ ([.connective word] ++ others)) ++ [.closing], ?_, fun truth start => ?_⟩
    · have whole := (covers.append ((Covers.connective word).append otherCovers)).enclosed
      unfold separator at whole
      simpa [Condition.tests, String.append_assoc] using whole
    · have both := ((reads truth start).joined word (otherReads truth _)).enclosed
      simpa [Condition.tests, Condition.holdsFrom] using both
  | _ => exact ⟨_, .test (leaf_sql checked rendered), fun truth start => readsOperand_test truth text start⟩

/-- The comparisons of a leaf are compiled as the leaf is, each by itself. -/
theorem TypedCriteria.exists_leaf_tokens {leaf : Condition → TypedCriteria}
    {compiled : Except QueryError String} {literal : Value → Except QueryError String}
    (leaf_sql : ∀ condition, (leaf condition).sql dialect = do
      let expression ← compiled
      return some (← condition.sql expression literal)) {condition : Condition} {text : String}
    (made : (leaf condition).sql dialect = .ok (some text)) :
    ∃ tokens, Covers dialect (condition.tests.map leaf) text tokens ∧ ∀ truth start, ∃ value,
      some (condition.holdsFrom truth start) = some value ∧
        ReadsOperand truth tokens start (condition.tests.map leaf).length value := by
  rw [leaf_sql] at made
  obtain ⟨expression, expressionMade, made⟩ := bind_eq_ok.mp made
  obtain ⟨_, written, made⟩ := bind_eq_ok.mp made
  obtain rfl := Option.some.inj (Except.ok.inj made)
  obtain ⟨_, checked, rendered⟩ := bind_eq_ok.mp written
  have test_sql {test : Condition} {text : String} (checked : test.check = .ok ())
      (rendered : test.render expression literal = .ok text) : (leaf test).sql dialect = .ok (some text) := by
    rw [leaf_sql, expressionMade, ok_bind]
    exact bind_eq_ok.mpr ⟨text, bind_eq_ok.mpr ⟨(), checked, rendered⟩, rfl⟩
  obtain ⟨tokens, covers, reads⟩ := Condition.exists_tokens test_sql checked rendered
  refine ⟨tokens, covers, fun truth start => ⟨_, rfl, ?_⟩⟩
  rw [List.length_map]
  exact reads truth start

theorem TypedCriteria.value?_logical {type : ConditionType} {children : List TypedCriteria} {part : String}
    {parts : List String} (made : TypedCriteria.parts dialect children = .ok (part :: parts))
    (truth : Nat → Bool) (start : Nat) : (TypedCriteria.logical type children).value? truth start =
      some (join type (TypedCriteria.valuesFrom truth start children)) := by
  have some_leaf := (TypedCriteria.parts_eq_nil_iff children made).not.mp (List.cons_ne_nil _ _)
  have some_value := (TypedCriteria.valuesFrom_eq_nil truth children start).not.mpr some_leaf
  unfold TypedCriteria.value?
  cases values : TypedCriteria.valuesFrom truth start children with
  | nil => exact absurd values some_value
  | cons value others => rfl

mutual

/-- A text is one operand, wherever it stands. -/
theorem TypedCriteria.exists_tokens : (criteria : TypedCriteria) → {text : String} →
    criteria.sql dialect = .ok (some text) →
    ∃ tokens, Covers dialect criteria.leaves text tokens ∧ ∀ truth start, ∃ value,
      criteria.value? truth start = some value ∧
        ReadsOperand truth tokens start criteria.leaves.length value
  | .onField _ _, _, made => TypedCriteria.exists_leaf_tokens (fun _ => rfl) made
  | .onPair _ _ _, text, made =>
    ⟨[.test text], .test made, fun truth start => ⟨truth start, rfl, readsOperand_test truth text start⟩⟩
  | .onMeasure _ _, _, made => TypedCriteria.exists_leaf_tokens (fun _ => rfl) made
  | .logical type children, text, made => by
    obtain ⟨_, checked, made⟩ := bind_eq_ok.mp made
    obtain ⟨parts, partsMade, made⟩ := bind_eq_ok.mp made
    have logical := exists_checkLogical_iff.mp ⟨_, checked⟩
    cases parts with
    | nil => cases made
    | cons part parts =>
      obtain rfl := Option.some.inj (Except.ok.inj made)
      obtain ⟨word, rfl⟩ := Connective.exists_type_eq logical
      obtain ⟨tokens, covers, reads⟩ := TypedCriteria.exists_clause word children partsMade
      exact ⟨_, covers.enclosed, fun truth start =>
        ⟨_, TypedCriteria.value?_logical partsMade truth start, (reads truth start).enclosed⟩⟩

/-- The texts of some criteria, joined, are a clause. -/
theorem TypedCriteria.exists_clause (word : Connective) :
    (children : List TypedCriteria) → {part : String} → {parts : List String} →
    TypedCriteria.parts dialect children = .ok (part :: parts) →
    ∃ tokens, Covers dialect (TypedCriteria.leavesOf children)
        ((separator word.type).intercalate (part :: parts)) tokens ∧
      ∀ truth start, ReadsClause truth tokens start (TypedCriteria.leavesOf children).length
        (join word.type (TypedCriteria.valuesFrom truth start children))
  | [], part, parts, made => nomatch made
  | child :: rest, part, parts, made => by
    obtain ⟨text, childMade, made⟩ := bind_eq_ok.mp made
    obtain ⟨others, othersMade, made⟩ := bind_eq_ok.mp made
    unfold TypedCriteria.leavesOf TypedCriteria.valuesFrom
    cases text with
    | none =>
      -- A child without a text has no leaves, and the clause starts with a later one.
      obtain rfl : others = part :: parts := Except.ok.inj made
      have leafless := (child.sql_eq_none_iff childMade).mp rfl
      obtain ⟨tokens, covers, reads⟩ := TypedCriteria.exists_clause word rest othersMade
      refine ⟨tokens, ?_, fun truth start => ?_⟩
      · rwa [leafless]
      · rw [leafless, (child.value?_eq_none truth start).mpr leafless]
        exact reads truth start
    | some text =>
      obtain ⟨rfl, rfl⟩ := List.cons.inj (Except.ok.inj made)
      obtain ⟨tokens, covers, reads⟩ := child.exists_tokens childMade
      obtain ⟨more, restCovers, restReads⟩ := TypedCriteria.exists_rest word rest othersMade
      rw [intercalate_cons]
      refine ⟨_, covers.append restCovers, fun truth start => ?_⟩
      obtain ⟨value, value_eq, first⟩ := reads truth start
      rw [value_eq, List.length_append]
      exact first.readsClause (restReads truth _)

/-- The texts of further criteria go on with a clause. -/
theorem TypedCriteria.exists_rest (word : Connective) :
    (children : List TypedCriteria) → {parts : List String} →
    TypedCriteria.parts dialect children = .ok parts →
    ∃ tokens, Covers dialect (TypedCriteria.leavesOf children)
        (String.join (parts.map (separator word.type ++ ·))) tokens ∧
      ∀ truth start, ReadsRest word truth tokens start (TypedCriteria.leavesOf children).length
        (TypedCriteria.valuesFrom truth start children)
  | [], parts, made => by
    obtain rfl := Except.ok.inj made
    exact ⟨[], ⟨rfl, .nil⟩, fun truth start => readsRest_nil word truth start⟩
  | child :: rest, parts, made => by
    obtain ⟨text, childMade, made⟩ := bind_eq_ok.mp made
    obtain ⟨others, othersMade, made⟩ := bind_eq_ok.mp made
    obtain rfl := Except.ok.inj made
    obtain ⟨more, restCovers, restReads⟩ := TypedCriteria.exists_rest word rest othersMade
    unfold TypedCriteria.leavesOf TypedCriteria.valuesFrom
    cases text with
    | none =>
      have leafless := (child.sql_eq_none_iff childMade).mp rfl
      refine ⟨more, ?_, fun truth start => ?_⟩
      · rw [leafless]
        exact restCovers
      · rw [leafless, (child.value?_eq_none truth start).mpr leafless]
        exact restReads truth start
    | some text =>
      obtain ⟨tokens, covers, reads⟩ := child.exists_tokens childMade
      rw [Option.toList_some, List.singleton_append, List.map_cons, String.join_cons]
      refine ⟨_, ((Covers.connective word).append covers).append restCovers, fun truth start => ?_⟩
      obtain ⟨value, value_eq, first⟩ := reads truth start
      rw [value_eq, List.length_append]
      exact first.readsRest (restReads truth _)

end

/-! ### Filters and joins -/

/-- A result is faithful to criteria: it is an error only for a node that is unsupported, it is no text only
where there is nothing to test, and a text is read as what the criteria say. -/
structure Faithful (dialect : Dialect) (criteria : TypedCriteria) (result : Except QueryError (Option String)) :
    Prop where
  error : (∃ error, result = .error error) ↔ ∃ node ∈ criteria.nodes, ¬node.Supported
  none : result = .ok none ↔ (∀ node ∈ criteria.nodes, node.Supported) ∧ criteria.leaves = []
  text : ∀ text, result = .ok (some text) → ∃ tokens, Covers dialect criteria.leaves text tokens ∧
    ∀ truth, ∃ value, criteria.value? truth 0 = some value ∧ evaluate truth tokens = some value

theorem TypedCriteria.faithful_sql (dialect : Dialect) (criteria : TypedCriteria) :
    Faithful dialect criteria (criteria.sql dialect) where
  error := by
    rw [exists_error_iff, ← not_exists, criteria.exists_sql_iff]
    push Not
    rfl
  none := by
    rw [← criteria.exists_sql_iff dialect]
    constructor
    · exact fun made => ⟨⟨_, made⟩, (criteria.sql_eq_none_iff made).mp rfl⟩
    · rintro ⟨⟨result, made⟩, leafless⟩
      rw [made, (criteria.sql_eq_none_iff made).mpr leafless]
  text := by
    intro text made
    obtain ⟨tokens, covers, reads⟩ := criteria.exists_tokens made
    refine ⟨tokens, covers, fun truth => ?_⟩
    obtain ⟨value, value_eq, operand⟩ := reads truth 0
    have clause := operand.readsClause (readsRest_nil .and truth _)
    rw [List.append_nil, join_singleton] at clause
    exact ⟨value, value_eq, clause.evaluate⟩

theorem TypedCriteria.faithful_join (dialect : Dialect) (children : List TypedCriteria) :
    Faithful dialect (.logical .and children) ((TypedCriteria.logical .and children).joinSql dialect) := by
  have enclosed := TypedCriteria.faithful_sql dialect (.logical .and children)
  have checked : checkLogical .and = .ok () := rfl
  simp only [TypedCriteria.sql, checked, ok_bind] at enclosed
  simp only [TypedCriteria.joinSql]
  cases made : TypedCriteria.parts dialect children with
  | error error => rwa [made] at enclosed
  | ok parts =>
    rw [made] at enclosed
    cases parts with
    | nil => exact enclosed
    | cons part parts =>
      simp only [ok_bind, pure_eq_ok] at enclosed ⊢
      refine ⟨?_, ?_, ?_⟩
      · rw [← enclosed.error]
        simp
      · rw [← enclosed.none]
        simp
      · intro text joined
        obtain rfl := Option.some.inj (Except.ok.inj joined)
        obtain ⟨tokens, covers, reads⟩ := TypedCriteria.exists_clause .and children made
        exact ⟨tokens, covers, fun truth =>
          ⟨_, TypedCriteria.value?_logical made truth 0, (reads truth 0).evaluate⟩⟩

/-- Filters are faithful to all criteria, and so are joins, which leave out the outer parentheses. -/
theorem TypedCriteria.sql_and_joinSql_faithful (dialect : Dialect) (criteria : TypedCriteria) :
    Faithful dialect criteria (criteria.sql dialect) ∧ Faithful dialect criteria (criteria.joinSql dialect) := by
  refine ⟨faithful_sql dialect criteria, ?_⟩
  cases criteria with
  | logical type children =>
    cases type with
    | and => exact faithful_join dialect children
    | _ => exact faithful_sql dialect _
  | _ => exact faithful_sql dialect _

/-- One of two cities or years, and a price. What has no leaves is left out. -/
def salesFilter : TypedCriteria :=
  .logical .and
    [.logical .or
      [.onField (.column none "city" .string none) (.single .eq (.str "Lima")), .logical .and [],
       .onField (.column none "year" .long none) (.single .gt (.int 2020))],
     .onField (.column none "price" .double none) (.constant .notNull)]

/-- The text of the filter has the parentheses that SQL needs, and that of a join leaves out the outer ones. -/
theorem salesFilter_reads_as_written :
    salesFilter.sql .duckdb = .ok (some "((\"city\" = 'Lima' or \"year\" > 2020) and \"price\" is not null)") ∧
      salesFilter.joinSql .duckdb = .ok (some "(\"city\" = 'Lima' or \"year\" > 2020) and \"price\" is not null") ∧
      (∃ tokens, spell tokens = "((\"city\" = 'Lima' or \"year\" > 2020) and \"price\" is not null)" ∧
        tests tokens = ["\"city\" = 'Lima'", "\"year\" > 2020", "\"price\" is not null"] ∧
        ∀ truth, evaluate truth tokens = some ((truth 0 || truth 1) && truth 2)) ∧
      ∃ tokens, spell tokens = "(\"city\" = 'Lima' or \"year\" > 2020) and \"price\" is not null" ∧
        tests tokens = ["\"city\" = 'Lima'", "\"year\" > 2020", "\"price\" is not null"] ∧
        ∀ truth, evaluate truth tokens = some ((truth 0 || truth 1) && truth 2) := by
  have written : salesFilter.sql .duckdb =
      .ok (some "((\"city\" = 'Lima' or \"year\" > 2020) and \"price\" is not null)") := by rfl
  have joined : salesFilter.joinSql .duckdb =
      .ok (some "(\"city\" = 'Lima' or \"year\" > 2020) and \"price\" is not null") := by rfl
  have value (truth : Nat → Bool) : salesFilter.value? truth 0 = some ((truth 0 || truth 1) && truth 2) := by
    simp [salesFilter, TypedCriteria.value?, TypedCriteria.valuesFrom, Condition.holdsFrom, TypedCriteria.leaves,
      TypedCriteria.leavesOf, Condition.tests, join]
  obtain ⟨faithful, joinFaithful⟩ := TypedCriteria.sql_and_joinSql_faithful .duckdb salesFilter
  obtain ⟨tokens, covers, reads⟩ := faithful.text _ written
  obtain ⟨others, otherCovers, otherReads⟩ := joinFaithful.text _ joined
  have leaves : List.Forall₂ (fun leaf test => leaf.sql .duckdb = .ok (some test)) salesFilter.leaves
      ["\"city\" = 'Lima'", "\"year\" > 2020", "\"price\" is not null"] := .cons rfl (.cons rfl (.cons rfl .nil))
  refine ⟨written, joined, ⟨tokens, covers.spelled, covers.tests_eq leaves, fun truth => ?_⟩,
    others, otherCovers.spelled, otherCovers.tests_eq leaves, fun truth => ?_⟩
  · obtain ⟨_, value_eq, read⟩ := reads truth
    exact read.trans (value_eq.symm.trans (value truth))
  · obtain ⟨_, value_eq, read⟩ := otherReads truth
    exact read.trans (value_eq.symm.trans (value truth))

end CubeQuery
