import CubeQuery.Proofs.Steps
import CubeQuery.Sql.Criteria

/-! Which criteria can be written: those whose nodes are all supported, each taken by itself. The nodes of the
filters of measures are among them. -/

namespace CubeQuery

open Steps

/-! ### Conditions -/

namespace Condition

/-- A condition and the conditions it is made of. -/
def nodes : Condition → List Condition
  | .logical type one two => .logical type one two :: (one.nodes ++ two.nodes)
  | condition => [condition]

/-- The values that an expression is compared with. -/
def literals : Condition → List Value
  | .single _ value => [value]
  | .inList _ values => values
  | .logical _ one two => one.literals ++ two.literals
  | .constant _ => []

theorem check_eq_ok {condition : Condition} :
    condition.check = .ok () ↔ ∀ node ∈ condition.nodes, node.isSupported = true := by
  induction condition with
  | logical type one two oneIh twoIh =>
    unfold check nodes
    rw [List.forall_mem_cons, List.forall_mem_append, ← oneIh, ← twoIh]
    split
    next supported => simp [supported, bind_eq_ok, Unique.exists_iff]
    next unsupported => simp [unsupported]
  | _ =>
    unfold check nodes
    rw [List.forall_mem_singleton]
    split <;> simp_all

theorem exists_render_iff {expression : String} {literal : Value → Except QueryError String}
    {condition : Condition} : (∃ text, condition.render expression literal = .ok text) ↔
      ∀ value ∈ condition.literals, ∃ text, literal value = .ok text := by
  induction condition with
  | single type value =>
    simp only [render, literals, List.forall_mem_singleton, exists_bind_iff, pure_eq_ok, Except.ok.injEq,
      exists_eq', and_true]
  | inList type values =>
    simp only [render, literals, exists_bind_iff, pure_eq_ok, Except.ok.injEq, exists_eq', and_true,
      exists_mapM_iff]
  | logical type one two oneIh twoIh =>
    simp only [render, literals, List.forall_mem_append, exists_bind_iff, pure_eq_ok, Except.ok.injEq,
      exists_eq', and_true, exists_and_right, oneIh, twoIh]
  | constant type => simp [render, literals]

theorem exists_sql_iff {expression : String} {literal : Value → Except QueryError String}
    {condition : Condition} : (∃ text, condition.sql expression literal = .ok text) ↔
      (∀ node ∈ condition.nodes, node.isSupported = true) ∧
        ∀ value ∈ condition.literals, ∃ text, literal value = .ok text := by
  unfold sql
  rw [exists_bind_iff, Unique.exists_iff, ← check_eq_ok, exists_render_iff]

end Condition

/-! ### Fields -/

/-- Whether values are written as literals of a type. -/
def FieldType.hasLiterals : FieldType → Bool
  | .date | .timestamp => false
  | _ => true

namespace TypedField

def isFunction : TypedField → Bool
  | .function _ => true
  | _ => false

theorem exists_sql_iff (dialect : Dialect) {field : TypedField} :
    (∃ text, field.sql dialect = .ok text) ↔ field.isFunction = false := by
  unfold TypedField.sql isFunction
  split <;> simp

theorem exists_literal_iff {field : TypedField} {value : Value} :
    (∃ text, field.literal value = .ok text) ↔ field.type.hasLiterals = true := by
  have quoted (type : FieldType) :
      (∃ text, quoteLiteral type value = .ok text) ↔ type.hasLiterals = true := by
    cases type <;> simp [quoteLiteral, FieldType.hasLiterals]
  cases field with
  | column store name type label => exact quoted type
  | labelled label type => exact quoted type
  | constant constant => cases constant <;> simp [literal, TypedField.type, Value.fieldType, FieldType.hasLiterals]
  | function expression => simp [literal, TypedField.type, FieldType.hasLiterals]

end TypedField

/-! ### Nodes -/

mutual

/-- All nodes of criteria, those of the filters of measures included. -/
def TypedCriteria.nodes : TypedCriteria → List TypedCriteria
  | .onField field condition => [.onField field condition]
  | .onPair left right type => [.onPair left right type]
  | .onMeasure measure condition => .onMeasure measure condition :: measure.nodes
  | .logical type children => .logical type children :: TypedCriteria.nodesOf children

def TypedCriteria.nodesOf : List TypedCriteria → List TypedCriteria
  | [] => []
  | child :: rest => child.nodes ++ TypedCriteria.nodesOf rest

def TypedCriteria.optionNodes : Option TypedCriteria → List TypedCriteria
  | none => []
  | some criteria => criteria.nodes

def TypedMeasure.nodes : TypedMeasure → List TypedCriteria
  | .aggregated _ _ _ criteria => TypedCriteria.optionNodes criteria
  | .expression _ _ => []
  | .count _ => []

end

/-- A measure that does not read a function. -/
def TypedMeasure.Readable : TypedMeasure → Prop
  | .aggregated _ field _ _ => field.isFunction = false
  | _ => True

/-- What a node itself takes to be written: fields that are no functions, operators that its kind has, and
literals only of types that have them. -/
def TypedCriteria.Supported : TypedCriteria → Prop
  | .onField field condition =>
    field.isFunction = false ∧ (∀ node ∈ condition.nodes, node.isSupported = true) ∧
      (condition.literals = [] ∨ field.type.hasLiterals = true)
  | .onPair left right type => type.isComparison = true ∧ left.isFunction = false ∧ right.isFunction = false
  | .onMeasure measure condition => measure.Readable ∧ ∀ node ∈ condition.nodes, node.isSupported = true
  | .logical type _ => type.isLogical = true

theorem exists_checkLogical_iff {type : ConditionType} :
    (∃ checked, checkLogical type = .ok checked) ↔ type.isLogical = true := by
  unfold checkLogical
  split <;> simp_all

theorem exists_checkComparison_iff {type : ConditionType} :
    (∃ checked, checkComparison type = .ok checked) ↔ type.isComparison = true := by
  unfold checkComparison
  split <;> simp_all

mutual

theorem TypedCriteria.exists_sql_iff (dialect : Dialect) : (criteria : TypedCriteria) →
    ((∃ result, criteria.sql dialect = .ok result) ↔ ∀ node ∈ criteria.nodes, node.Supported)
  | .onField field condition => by
    unfold TypedCriteria.sql TypedCriteria.nodes
    rw [List.forall_mem_singleton]
    simp only [TypedCriteria.Supported, exists_bind_iff, pure_eq_ok, Except.ok.injEq, exists_eq', and_true,
      exists_and_right, Condition.exists_sql_iff, TypedField.exists_sql_iff, TypedField.exists_literal_iff]
    refine and_congr_right fun _ => and_congr_right fun _ => ?_
    rw [List.eq_nil_iff_forall_not_mem]
    grind
  | .onPair left right type => by
    unfold TypedCriteria.sql TypedCriteria.nodes
    rw [List.forall_mem_singleton]
    simp only [TypedCriteria.Supported, exists_bind_iff, pure_eq_ok, Except.ok.injEq, exists_eq', and_true,
      exists_and_right, TypedField.exists_sql_iff, exists_checkComparison_iff]
  | .onMeasure measure condition => by
    unfold TypedCriteria.sql TypedCriteria.nodes
    rw [List.forall_mem_cons]
    simp only [TypedCriteria.Supported, exists_bind_iff, pure_eq_ok, Except.ok.injEq, exists_eq', and_true,
      exists_and_right, Condition.exists_sql_iff, measure.exists_sql_iff dialect, implies_true]
    exact and_right_comm
  | .logical type children => by
    unfold TypedCriteria.sql TypedCriteria.nodes
    rw [List.forall_mem_cons, ← TypedCriteria.exists_parts_iff dialect children]
    simp only [TypedCriteria.Supported, exists_bind_iff, exists_and_right, exists_checkLogical_iff]
    refine and_congr_right fun _ => exists_congr fun parts => and_iff_left ?_
    cases parts <;> exact ⟨_, rfl⟩

theorem TypedCriteria.exists_parts_iff (dialect : Dialect) : (children : List TypedCriteria) →
    ((∃ parts, TypedCriteria.parts dialect children = .ok parts) ↔
      ∀ node ∈ TypedCriteria.nodesOf children, node.Supported)
  | [] => by simp [TypedCriteria.parts, TypedCriteria.nodesOf]
  | child :: rest => by
    unfold TypedCriteria.parts TypedCriteria.nodesOf
    rw [List.forall_mem_append, ← child.exists_sql_iff dialect, ← TypedCriteria.exists_parts_iff dialect rest]
    simp only [exists_bind_iff, pure_eq_ok, Except.ok.injEq, exists_eq', and_true, exists_and_right]

theorem TypedCriteria.exists_optionSql_iff (dialect : Dialect) : (criteria : Option TypedCriteria) →
    ((∃ result, TypedCriteria.optionSql dialect criteria = .ok result) ↔
      ∀ node ∈ TypedCriteria.optionNodes criteria, node.Supported)
  | none => by simp [TypedCriteria.optionSql, TypedCriteria.optionNodes]
  | some criteria => criteria.exists_sql_iff dialect

theorem TypedMeasure.exists_sql_iff (dialect : Dialect) : (measure : TypedMeasure) →
    ((∃ text, measure.sql dialect = .ok text) ↔
      measure.Readable ∧ ∀ node ∈ measure.nodes, node.Supported)
  | .aggregated label field aggregation criteria => by
    unfold TypedMeasure.sql TypedMeasure.nodes
    rw [← TypedCriteria.exists_optionSql_iff dialect criteria]
    simp only [TypedMeasure.Readable, ← TypedField.exists_sql_iff dialect, exists_bind_iff,
      ← exists_and_right]
    refine exists_congr fun column => and_congr_right fun _ => exists_congr fun filter => and_iff_left ?_
    cases filter <;> exact ⟨_, rfl⟩
  | .expression label sql => by simp [TypedMeasure.sql, TypedMeasure.nodes, TypedMeasure.Readable]
  | .count label => by simp [TypedMeasure.sql, TypedMeasure.nodes, TypedMeasure.Readable]

end

end CubeQuery
