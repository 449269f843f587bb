import CubeQuery.Sql.Criteria

/-! Predicates as SQL reads them: `and` binds tighter than `or`, and what stands in parentheses is one operand.
The truth of a predicate is read off its tokens from left to right. Its tests are numbered as they stand, and
each has a truth of its own. -/

namespace CubeQuery.Predicate

inductive Connective where
  | and
  | or

namespace Connective

/-- The word between two operands, with a blank on either side. -/
def text : Connective → String
  | .and => " and "
  | .or => " or "

def type : Connective → ConditionType
  | .and => .and
  | .or => .or

theorem separator_type (word : Connective) : separator word.type = word.text := by
  cases word <;> rfl

theorem exists_type_eq {type : ConditionType} (logical : type.isLogical = true) :
    ∃ word : Connective, word.type = type := by
  cases type with
  | and => exact ⟨.and, rfl⟩
  | or => exact ⟨.or, rfl⟩
  | _ => cases logical

end Connective

inductive Token where
  | test (text : String)
  | connective (word : Connective)
  | opening
  | closing

namespace Token

def text : Token → String
  | .test text => text
  | .connective word => word.text
  | .opening => "("
  | .closing => ")"

def test? : Token → Option String
  | .test text => some text
  | _ => none

end Token

def spell (tokens : List Token) : String := String.join (tokens.map Token.text)

def tests (tokens : List Token) : List String := tokens.filterMap Token.test?

/-! ### Reading -/

/-- What stands before an operand: whether an alternative that is complete holds, and whether all factors of the
alternative at hand do. -/
structure Clause where
  alternatives : Bool
  factors : Bool

namespace Clause

def start : Clause := ⟨false, true⟩

/-- The truth of a clause that ends with an operand. -/
def whole (clause : Clause) (operand : Bool) : Bool := clause.alternatives || (clause.factors && operand)

/-- The clause before the next operand. -/
def continued (clause : Clause) (operand : Bool) : Connective → Clause
  | .and => ⟨clause.alternatives, clause.factors && operand⟩
  | .or => ⟨clause.whole operand, true⟩

end Clause

/-- A reader within parentheses, before an operand or after it. -/
structure Reader where
  outer : List Clause
  clause : Clause
  operand : Option Bool
  /-- The tests that have been read. -/
  count : Nat

def Reader.step (truth : Nat → Bool) : Reader → Token → Option Reader
  | ⟨outer, clause, none, count⟩, .test _ => some ⟨outer, clause, some (truth count), count + 1⟩
  | ⟨outer, clause, none, count⟩, .opening => some ⟨clause :: outer, .start, none, count⟩
  | ⟨outer, clause, some operand, count⟩, .connective word =>
    some ⟨outer, clause.continued operand word, none, count⟩
  | ⟨above :: outer, clause, some operand, count⟩, .closing =>
    some ⟨outer, above, some (clause.whole operand), count⟩
  | _, _ => none

def Reader.run (truth : Nat → Bool) : Reader → List Token → Option Reader
  | reader, [] => some reader
  | reader, token :: rest => (reader.step truth token).bind (·.run truth rest)

/-- The truth of a predicate, if the tokens are one. -/
def evaluate (truth : Nat → Bool) (tokens : List Token) : Option Bool :=
  match Reader.run truth ⟨[], .start, none, 0⟩ tokens with
  | some ⟨[], clause, some operand, _⟩ => some (clause.whole operand)
  | _ => none

/-- All of the values or one of them. -/
def join (type : ConditionType) (values : List Bool) : Bool :=
  if type = .or then values.any id else values.all id

variable {truth : Nat → Bool} {tokens others : List Token} {word : Connective} {start count more : Nat}
  {value : Bool} {values : List Bool}

theorem Reader.run_append {reader middle : Reader} (first : reader.run truth tokens = some middle) :
    reader.run truth (tokens ++ others) = middle.run truth others := by
  induction tokens generalizing reader with
  | nil => rw [Option.some.inj first, List.nil_append]
  | cons token rest ih =>
    obtain ⟨next, stepped, ran⟩ := Option.bind_eq_some_iff.mp first
    rw [List.cons_append, Reader.run, stepped]
    exact ih ran

theorem join_singleton (type : ConditionType) (value : Bool) : join type [value] = value := by
  unfold join
  split <;> simp

/-- Two values may be joined before the others. -/
theorem join_cons_cons (type : ConditionType) (first second : Bool) (values : List Bool) :
    join type (join type [first, second] :: values) = join type (first :: second :: values) := by
  unfold join
  split <;> simp [Bool.or_assoc, Bool.and_assoc]

/-! ### Operands -/

/-- Wherever an operand is expected, tokens are read as one. -/
def ReadsOperand (truth : Nat → Bool) (tokens : List Token) (start count : Nat) (value : Bool) : Prop :=
  ∀ outer clause, Reader.run truth ⟨outer, clause, none, start⟩ tokens =
    some ⟨outer, clause, some value, start + count⟩

/-- Tokens are read as a clause, which may go on. -/
def ReadsClause (truth : Nat → Bool) (tokens : List Token) (start count : Nat) (value : Bool) : Prop :=
  ∀ outer, ∃ clause operand, Reader.run truth ⟨outer, .start, none, start⟩ tokens =
    some ⟨outer, clause, some operand, start + count⟩ ∧ clause.whole operand = value

/-- Tokens are read as more operands of a clause that has one kind of connectives. -/
def ReadsRest (word : Connective) (truth : Nat → Bool) (tokens : List Token) (start count : Nat)
    (values : List Bool) : Prop :=
  ∀ outer clause operand, (word = .and → clause.alternatives = false) → ∃ last lastOperand,
    Reader.run truth ⟨outer, clause, some operand, start⟩ tokens =
      some ⟨outer, last, some lastOperand, start + count⟩ ∧
        last.whole lastOperand = join word.type (clause.whole operand :: values)

theorem readsOperand_test (truth : Nat → Bool) (text : String) (start : Nat) :
    ReadsOperand truth [.test text] start 1 (truth start) := fun _ _ => rfl

theorem ReadsClause.enclosed (reads : ReadsClause truth tokens start count value) :
    ReadsOperand truth ([.opening] ++ tokens ++ [.closing]) start count value := by
  intro outer clause
  obtain ⟨last, operand, inner, rfl⟩ := reads (clause :: outer)
  exact Reader.run_append inner

theorem ReadsClause.evaluate (reads : ReadsClause truth tokens 0 count value) :
    evaluate truth tokens = some value := by
  obtain ⟨clause, operand, inner, rfl⟩ := reads []
  unfold Predicate.evaluate
  rw [inner]

/-- After a connective a clause holds if what was read and the operand do, or one of them. -/
theorem whole_continued (clause : Clause) (operand : Bool) (plain : word = .and → clause.alternatives = false) :
    (word = .and → (clause.continued operand word).alternatives = false) ∧
      ∀ value, (clause.continued operand word).whole value = join word.type [clause.whole operand, value] := by
  cases word with
  | and =>
    refine ⟨plain, fun value => ?_⟩
    simp [join, Connective.type, Clause.continued, Clause.whole, plain rfl, Bool.and_assoc]
  | or => exact ⟨nofun, fun value => by simp [join, Connective.type, Clause.continued, Clause.whole]⟩

theorem readsRest_nil (word : Connective) (truth : Nat → Bool) (start : Nat) :
    ReadsRest word truth [] start 0 [] :=
  fun _ clause operand _ => ⟨clause, operand, rfl, (join_singleton word.type _).symm⟩

theorem ReadsOperand.readsRest (first : ReadsOperand truth tokens start count value)
    (rest : ReadsRest word truth others (start + count) more values) :
    ReadsRest word truth ([.connective word] ++ tokens ++ others) start (count + more) (value :: values) := by
  intro outer clause operand plain
  obtain ⟨nextPlain, whole⟩ := whole_continued clause operand plain
  obtain ⟨last, lastOperand, inner, same⟩ := rest outer (clause.continued operand word) value nextPlain
  refine ⟨last, lastOperand, ?_, ?_⟩
  · rw [← Nat.add_assoc, ← inner, List.append_assoc, ← Reader.run_append (first outer (clause.continued operand word)),
      List.singleton_append, Reader.run, Reader.step]
    rfl
  · rw [same, whole, join_cons_cons]

theorem ReadsOperand.readsClause (first : ReadsOperand truth tokens start count value)
    (rest : ReadsRest word truth others (start + count) more values) :
    ReadsClause truth (tokens ++ others) start (count + more) (join word.type (value :: values)) := by
  intro outer
  obtain ⟨last, operand, inner, same⟩ := rest outer .start value fun _ => rfl
  refine ⟨last, operand, ?_, same⟩
  rw [Reader.run_append (first outer .start), ← Nat.add_assoc]
  exact inner

theorem ReadsOperand.joined {other : Bool} (word : Connective) (first : ReadsOperand truth tokens start count value)
    (second : ReadsOperand truth others (start + count) more other) :
    ReadsClause truth (tokens ++ ([.connective word] ++ others)) start (count + more)
      (join word.type [value, other]) := by
  have rest := second.readsRest (readsRest_nil word truth _)
  rw [List.append_nil, Nat.add_zero] at rest
  exact first.readsClause rest

/-- Of `a or b and c or d`, the two tests in the middle are one alternative. -/
example : evaluate truth [.test "a", .connective .or, .test "b", .connective .and, .test "c", .connective .or,
    .test "d"] = some ((truth 0 || (truth 1 && truth 2)) || truth 3) := rfl

example : evaluate truth [.opening, .test "a", .connective .or, .test "b", .closing, .connective .and, .test "c"] =
    some ((truth 0 || truth 1) && truth 2) := rfl

end CubeQuery.Predicate
