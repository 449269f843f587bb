import CubeQuery.Proofs.Execution.Dependencies
import CubeQuery.Proofs.Execution.Faults
import CubeQuery.Proofs.Table

/-! Measures evaluated by recursion on their operands, without layers or an order of nodes. A run
over the layers of a plan gives every measure in memory the column that the recursion gives it, and
it fails only where the definition of a measure is at fault. -/

namespace CubeQuery

open Steps

/-- The value of a column at a row; there is none below the last row. -/
def valueAt (values : List Value) (row : Nat) : Value := values[row]?.getD .null

/-- The element of a vector at a row of the vector scope, from the columns of its components. -/
def elementAt (components : List (List Value)) (row : Nat) : Value :=
  match components with
  | [values] => valueAt values row
  | components => .list (components.map fun values => valueAt values row)

namespace Plan

/-- The values of a measure in a scope, computed from the values of its operands: those of the
database are read, operators go row by row, comparisons look for the reference row in the table of
the reference scope, and vectors collect the rows of the vector scope. -/
inductive Computes (plan : Plan) (tables : ScopeTables) : ScopeKey → String → List Value → Prop where
  | stored {key : ScopeKey} {label : String} {measure : Measure} {table : Table} {column : Column}
      (measureFound : plan.arena.find? label = some measure) (primitive : measure.isPrimitive = true)
      (tableFound : tables.lookup key = some table) (columnFound : table.find? label = some column) :
      Computes plan tables key label column.values
  | binary {key : ScopeKey} {label name : String} {operator : BinaryOperator} {left right : Measure}
      {lefts rights : List Value}
      (measureFound : plan.arena.find? label = some (.binary name operator left right))
      (leftComputed : Computes plan tables key left.label lefts)
      (rightComputed : Computes plan tables key right.label rights) :
      Computes plan tables key label (List.zipWith operator.apply lefts rights)
  | comparison {key : ScopeKey} {label name : String} {method : ComparisonMethod} {base : Measure}
      {positions : SortedMap Field String} {period : Option Period}
      {columnSet : Option ColumnSetKey} {ancestors : Option (List Field)} {scope reference : Scope}
      {current referenceTable : Table} {grouping : List Column} {shifter : Shifter}
      {values referenceValues : List Value}
      (measureFound : plan.arena.find? label =
        some (.comparison name method base positions period columnSet ancestors))
      (scopeFound : plan.discovery.scopes.lookup key = some scope)
      (referenceFound : scope.forComparison name period columnSet ancestors = .ok reference)
      (currentFound : tables.lookup key = some current)
      (referenceTableFound : tables.lookup reference.key = some referenceTable)
      (groupingFound : referenceTable.columnsNamed current.groupingNames = .ok grouping)
      (shifterFound : Shifter.ofComparison scope name positions period columnSet ancestors
        current.groupingNames = .ok shifter)
      (computed : Computes plan tables key base.label values)
      (referenceComputed : Computes plan tables reference.key base.label referenceValues) :
      Computes plan tables key label
        (current.rowIndices.map fun row => method.apply (valueAt values row)
          (match (shifter.shift (current.point row)).bind (referenceTable.lastRowAt? grouping) with
            | some referenceRow => valueAt referenceValues referenceRow
            | none => .null))
  | vector {key : ScopeKey} {label name : String} {fields : List (Field × String)} {axis : Field}
      {transformer : Option String} {scope : Scope} {current vectors : Table}
      {grouping : List Column} {axisColumn : Column} {components : String → List Value}
      (measureFound : plan.arena.find? label = some (.vector name fields axis transformer))
      (nonempty : fields ≠ [])
      (scopeFound : plan.discovery.scopes.lookup key = some scope)
      (currentFound : tables.lookup key = some current)
      (vectorsFound : tables.lookup (scope.forVector axis).key = some vectors)
      (groupingFound : vectors.columnsNamed current.groupingNames = .ok grouping)
      (axisFound : vectors.find? axis.name = some axisColumn)
      (computed : ∀ component ∈ Measure.components name fields,
        Computes plan tables (scope.forVector axis).key component.label (components component.label)) :
      Computes plan tables key label
        (current.rowIndices.map fun row =>
          match vectorRows vectors grouping axisColumn (current.point row) with
          | [] => .null
          | rows => vectorValue transformer (rows.map (elementAt
              ((Measure.components name fields).map fun component => components component.label))))

/-- The recursion gives one list of values. -/
theorem Computes.unique {plan : Plan} {tables : ScopeTables} {key : ScopeKey} {label : String}
    {values others : List Value} (first : plan.Computes tables key label values)
    (second : plan.Computes tables key label others) : values = others := by
  induction first generalizing others with
  | stored measureFound primitive tableFound columnFound =>
    cases second with
    | stored otherMeasure otherPrimitive otherTable otherColumn =>
      obtain rfl := Option.some.inj (tableFound.symm.trans otherTable)
      obtain rfl := Option.some.inj (columnFound.symm.trans otherColumn)
      rfl
    | binary otherMeasure | comparison otherMeasure | vector otherMeasure =>
      obtain rfl := Option.some.inj (measureFound.symm.trans otherMeasure)
      cases primitive
  | binary measureFound leftComputed rightComputed leftUnique rightUnique =>
    cases second with
    | binary otherMeasure otherLeft otherRight =>
      cases Option.some.inj (measureFound.symm.trans otherMeasure)
      rw [leftUnique otherLeft, rightUnique otherRight]
    | stored otherMeasure primitive =>
      obtain rfl := Option.some.inj (measureFound.symm.trans otherMeasure)
      cases primitive
    | comparison otherMeasure | vector otherMeasure =>
      cases Option.some.inj (measureFound.symm.trans otherMeasure)
  | comparison measureFound scopeFound referenceFound currentFound referenceTableFound groupingFound
      shifterFound computed referenceComputed unique referenceUnique =>
    cases second with
    | comparison otherMeasure otherScope otherReference otherCurrent otherReferenceTable otherGrouping
        otherShifter otherComputed otherReferenceComputed =>
      cases Option.some.inj (measureFound.symm.trans otherMeasure)
      obtain rfl := Option.some.inj (scopeFound.symm.trans otherScope)
      obtain rfl := Except.ok.inj (referenceFound.symm.trans otherReference)
      obtain rfl := Option.some.inj (currentFound.symm.trans otherCurrent)
      obtain rfl := Option.some.inj (referenceTableFound.symm.trans otherReferenceTable)
      obtain rfl := Except.ok.inj (groupingFound.symm.trans otherGrouping)
      obtain rfl := Except.ok.inj (shifterFound.symm.trans otherShifter)
      rw [unique otherComputed, referenceUnique otherReferenceComputed]
    | stored otherMeasure primitive =>
      obtain rfl := Option.some.inj (measureFound.symm.trans otherMeasure)
      cases primitive
    | binary otherMeasure | vector otherMeasure =>
      cases Option.some.inj (measureFound.symm.trans otherMeasure)
  | @vector key label name fields axis transformer scope current vectors grouping axisColumn components
      measureFound nonempty scopeFound currentFound vectorsFound groupingFound axisFound computed
      unique =>
    cases second with
    | vector otherMeasure otherNonempty otherScope otherCurrent otherVectors otherGrouping otherAxis
        otherComputed =>
      cases Option.some.inj (measureFound.symm.trans otherMeasure)
      obtain rfl := Option.some.inj (scopeFound.symm.trans otherScope)
      obtain rfl := Option.some.inj (currentFound.symm.trans otherCurrent)
      obtain rfl := Option.some.inj (vectorsFound.symm.trans otherVectors)
      obtain rfl := Except.ok.inj (groupingFound.symm.trans otherGrouping)
      obtain rfl := Option.some.inj (axisFound.symm.trans otherAxis)
      rw [List.map_congr_left fun component member => unique component member
        (otherComputed component member)]
    | stored otherMeasure primitive =>
      obtain rfl := Option.some.inj (measureFound.symm.trans otherMeasure)
      cases primitive
    | binary otherMeasure | comparison otherMeasure =>
      cases Option.some.inj (measureFound.symm.trans otherMeasure)

end Plan

end CubeQuery
