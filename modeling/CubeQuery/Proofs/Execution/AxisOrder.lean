import CubeQuery.Proofs.Execution.Ordering
import CubeQuery.Proofs.Execution.Vectors
import CubeQuery.Proofs.Restriction.Selection

/-! Vectors hold each row at their point once, along the axis, and rows at one place of the axis as the table
has them. If no two rows at a point have the same place, the order of the table is not seen. -/

namespace CubeQuery

open Steps

/-! ### Rows along the axis -/

/-- The rows at a point, each once: those at a lesser place of the axis first, and those at one place as they
stand. -/
structure AlongAxis (vectors : Table) (grouping : List Column) (axis : Column) (point : List Value)
    (rows : List Nat) : Prop where
  perm : rows.Perm (vectors.rowIndices.filter fun row => Table.cells grouping row = point)
  sorted : rows.Pairwise fun a b =>
    compare (axis.cell a) (axis.cell b) = .lt ∨ axis.cell a = axis.cell b ∧ a < b

/-- What a vector has for a row: the value of its one component, or else the list of the values of all. -/
inductive IsElement (row : Nat) : List Column → Value → Prop where
  | value (component : Column) : IsElement row [component] (component.cell row)
  | tuple {components : List Column} (several : components.length ≠ 1) :
      IsElement row components (.list (components.map fun component => component.cell row))

/-- Rows at one point have places of their own on the axis. -/
def DistinctPlaces (vectors : Table) (grouping : List Column) (axis : Column) : Prop :=
  ∀ a ∈ vectors.rowIndices, ∀ b ∈ vectors.rowIndices,
    Table.cells grouping a = Table.cells grouping b → axis.cell a = axis.cell b → a = b

variable {vectors : Table} {grouping : List Column} {axis : Column} {point : List Value}

theorem transCmp_axis (axis : Column) : Std.TransCmp fun a b => compare (axis.cell a) (axis.cell b) where
  eq_swap := Value.transCmp.eq_swap
  isLE_trans := Value.transCmp.isLE_trans

theorem isElement_iff {components : List Column} {row : Nat} {element : Value} :
    IsElement row components element ↔ vectorElement components row = element := by
  constructor
  · rintro (component | several)
    · rfl
    · match components, several with
      | [], _ => rfl
      | _ :: _ :: _, _ => rfl
  · rintro rfl
    match components with
    | [component] => exact .value component
    | [] => exact .tuple (by simp)
    | _ :: _ :: _ => exact .tuple (by simp)

theorem forall₂_isElement {components : List Column} {rows : List Nat} {elements : List Value} :
    List.Forall₂ (fun row element => IsElement row components element) rows elements ↔
      rows.map (vectorElement components) = elements := by
  simp only [isElement_iff]
  rw [← List.forall₂_map_left_iff (R := Eq), List.forall₂_eq_eq_eq]

theorem vectorRows_alongAxis (vectors : Table) (grouping : List Column) (axis : Column) (point : List Value) :
    AlongAxis vectors grouping axis point (vectorRows vectors grouping axis point) where
  perm := List.mergeSort_perm _ _
  sorted := by
    have ascending : (vectors.rowIndices.filter fun row => Table.cells grouping row = point).Pairwise (· < ·) :=
      List.pairwise_lt_range.filter _
    exact (pairwise_mergeSort_rows (transCmp_axis axis) ascending).imp fun inOrder =>
      inOrder.imp_right (And.imp_left Value.compare_eq_eq.mp)

theorem AlongAxis.mem {rows : List Nat} (along : AlongAxis vectors grouping axis point rows) {row : Nat}
    (listed : row ∈ rows) : row ∈ vectors.rowIndices ∧ Table.cells grouping row = point := by
  simpa using List.mem_filter.mp (along.perm.subset listed)

theorem AlongAxis.inOrder {rows : List Nat} (along : AlongAxis vectors grouping axis point rows) :
    InOrder (rows.map axis.cell) := by
  refine List.pairwise_map.mpr (along.sorted.imp ?_)
  rintro a b (less | ⟨level, -⟩)
  · rw [less]
    rfl
  · rw [Value.compare_eq_eq.mpr level]
    rfl

/-- Where places differ there is one list of the rows along the axis, in whatever order they stood. -/
theorem AlongAxis.eq_of_perm {rows others : List Nat} (along : AlongAxis vectors grouping axis point rows)
    (distinct : DistinctPlaces vectors grouping axis) (perm : others.Perm rows)
    (ascending : InOrder (others.map axis.cell)) : others = rows := by
  refine List.Perm.eq_of_pairwise (fun a b first second one other => ?_) (List.pairwise_map.mp ascending)
    (List.pairwise_map.mp along.inOrder) perm
  obtain ⟨inTable, here⟩ := along.mem (perm.subset first)
  obtain ⟨otherInTable, there⟩ := along.mem second
  exact distinct a inTable b otherInTable (here.trans there.symm) (Value.ascending_antisymm one other)

/-! ### Rows in another order -/

variable {order : List Nat}

theorem placeIn_eq {row : Nat} (inside : row < order.length) : Table.placeIn order row = order[row] :=
  List.getD_eq_getElem order 0 inside

/-- The rows at a point are found at their new places. -/
theorem map_placeIn_filter (grouping : List Column) (order : List Nat) (point : List Value) :
    ((List.range order.length).filter fun row =>
        Table.cells (grouping.map (Column.take order)) row = point).map (Table.placeIn order) =
      order.filter fun row => Table.cells grouping row = point :=
  calc ((List.range order.length).filter fun row =>
        Table.cells (grouping.map (Column.take order)) row = point).map (Table.placeIn order)
    _ = ((List.range order.length).filter fun row =>
        Table.cells grouping (Table.placeIn order row) = point).map (Table.placeIn order) := by
      refine congrArg (List.map _) (List.filter_congr fun row listed => ?_)
      have inside := List.mem_range.mp listed
      rw [Table.cells_take inside, placeIn_eq inside]
    _ = ((List.range order.length).map (Table.placeIn order)).filter fun row =>
        Table.cells grouping row = point := by
      rw [List.filter_map]
      rfl
    _ = order.filter fun row => Table.cells grouping row = point := by rw [Table.map_placeIn]

theorem rowIndices_takeRows (perm : order.Perm vectors.rowIndices) :
    (vectors.takeRows order).rowIndices = List.range order.length :=
  congrArg List.range (Table.rowCount_takeRows_perm perm)

theorem lt_of_mem_takeRows (perm : order.Perm vectors.rowIndices) {row : Nat}
    (listed : row ∈ (vectors.takeRows order).rowIndices) : row < order.length := by
  rwa [rowIndices_takeRows perm, List.mem_range] at listed

/-- The rows at a point are the same rows in another order. -/
theorem vectorRows_takeRows (perm : order.Perm vectors.rowIndices) (distinct : DistinctPlaces vectors grouping axis)
    (point : List Value) :
    (vectorRows (vectors.takeRows order) (grouping.map (Column.take order)) (axis.take order) point).map
      (Table.placeIn order) = vectorRows vectors grouping axis point := by
  have along := vectorRows_alongAxis vectors grouping axis point
  have taken := vectorRows_alongAxis (vectors.takeRows order) (grouping.map (Column.take order))
    (axis.take order) point
  refine along.eq_of_perm distinct ?_ ?_
  · have moved := taken.perm.map (Table.placeIn order)
    rw [rowIndices_takeRows perm, map_placeIn_filter] at moved
    exact moved.trans ((perm.filter _).trans along.perm.symm)
  · rw [List.map_map]
    have places : (vectorRows (vectors.takeRows order) (grouping.map (Column.take order)) (axis.take order)
        point).map (axis.cell ∘ Table.placeIn order) = _ :=
      List.map_congr_left fun row listed => by
        have inside := lt_of_mem_takeRows perm (taken.mem listed).1
        rw [Function.comp_apply, placeIn_eq inside, ← Column.cell_take inside]
    exact places ▸ taken.inOrder

/-- A vector is null only where there are no rows. -/
theorem vectorAt_eq (vectors : Table) (grouping : List Column) (axis : Column) (components : List Column)
    (transformer : Option String) (point : List Value) :
    vectorAt vectors grouping axis components transformer point =
      if (vectorRows vectors grouping axis point).map (vectorElement components) = [] then .null
      else vectorValue transformer ((vectorRows vectors grouping axis point).map (vectorElement components)) := by
  unfold vectorAt
  cases vectorRows vectors grouping axis point with
  | nil => rfl
  | cons row rows => rfl

/-- The vectors of a table do not depend on the order of its rows. -/
theorem vectorAt_takeRows (perm : order.Perm vectors.rowIndices) (distinct : DistinctPlaces vectors grouping axis)
    (components : List Column) (transformer : Option String) (point : List Value) :
    vectorAt (vectors.takeRows order) (grouping.map (Column.take order)) (axis.take order)
      (components.map (Column.take order)) transformer point =
      vectorAt vectors grouping axis components transformer point := by
  have taken := vectorRows_alongAxis (vectors.takeRows order) (grouping.map (Column.take order))
    (axis.take order) point
  have elements : (vectorRows (vectors.takeRows order) (grouping.map (Column.take order)) (axis.take order)
      point).map (vectorElement (components.map (Column.take order))) =
      (vectorRows vectors grouping axis point).map (vectorElement components) := by
    rw [← vectorRows_takeRows perm distinct, List.map_map]
    refine List.map_congr_left fun row listed => ?_
    have inside := lt_of_mem_takeRows perm (taken.mem listed).1
    rw [Function.comp_apply, placeIn_eq inside, vectorElement_take inside]
  rw [vectorAt_eq, vectorAt_eq, elements]

/-- For all tables that have the columns, each row has the list of the elements of the rows at its point, each
row once and along the axis, or null if there are none. With places of their own on the axis the rows of the
vectors may stand in any order. -/
theorem vectorColumn_along_axis (components : List String) (axis : String) (current vectors : Table)
    (grouped : current.groupingNames ⊆ vectors.names) (split : axis ∈ vectors.names)
    (measured : components ⊆ vectors.names) :
    ∃ grouping axisColumn columns values,
      List.Forall₂ (fun name column => vectors.find? name = some column) current.groupingNames grouping ∧
      vectors.find? axis = some axisColumn ∧
      List.Forall₂ (fun name column => vectors.find? name = some column) components columns ∧
      vectorColumn components axis none current vectors = .ok values ∧ values.length = current.rowCount ∧
      (∀ row < current.rowCount, ∃ rows elements,
        AlongAxis vectors grouping axisColumn (current.point row) rows ∧
        List.Forall₂ (fun found element => IsElement found columns element) rows elements ∧
        values[row]? = some (if rows = [] then .null else .list elements)) ∧
      (DistinctPlaces vectors grouping axisColumn → ∀ order, order.Perm vectors.rowIndices →
        vectorColumn components axis none current (vectors.takeRows order) = .ok values) := by
  obtain ⟨grouping, groupingFound⟩ := Table.exists_columnsNamed grouped
  obtain ⟨axisColumn, axisFound⟩ := Option.isSome_iff_exists.mp (Table.find?_isSome.mpr split)
  obtain ⟨columns, columnsFound⟩ := Table.exists_columnsNamed measured
  refine ⟨grouping, axisColumn, columns, _, Table.columnsNamed_eq_ok.mp groupingFound, axisFound,
    Table.columnsNamed_eq_ok.mp columnsFound,
    vectorColumn_eq_ok.mpr ⟨grouping, axisColumn, columns, groupingFound, axisFound, columnsFound, rfl⟩,
    ?_, ?_, ?_⟩
  · simp [Table.rowIndices]
  · intro row inside
    refine ⟨_, _, vectorRows_alongAxis vectors grouping axisColumn (current.point row), forall₂_isElement.mpr rfl, ?_⟩
    simp [Table.rowIndices, inside, vectorAt_eq, vectorValue]
  · intro distinct order perm
    refine vectorColumn_eq_ok.mpr ⟨grouping.map (Column.take order), axisColumn.take order,
      columns.map (Column.take order), Table.columnsNamed_takeRows groupingFound order, ?_,
      Table.columnsNamed_takeRows columnsFound order, ?_⟩
    · rw [Table.find?_takeRows, axisFound]
      rfl
    · exact List.map_congr_left fun point _ => (vectorAt_takeRows perm distinct columns none point).symm

/-! ### Months of prices -/

def threeScenarios : Table := ⟨[⟨.grouping "scenario" .string, [.str "base", .str "s1", .str "s2"]⟩]⟩

def monthColumn : Column := ⟨.grouping "month" .long, [.int 2, .int 1, .int 1]⟩

def pricedScenarios : Column := ⟨.grouping "scenario" .string, [.str "base", .str "base", .str "s1"]⟩

def priceColumn : Column := ⟨.measure "price" .long, [.int 20, .int 10, .int 5]⟩

def taxColumn : Column := ⟨.measure "tax" .long, [.int 4, .int 2, .null]⟩

def monthPrices : Table := ⟨[monthColumn, pricedScenarios, priceColumn, taxColumn]⟩

def pricesByMonth : List Value := [.list [.int 10, .int 20], .list [.int 5], .null]

def taxedPricesByMonth : List Value :=
  [.list [.list [.int 10, .int 2], .list [.int 20, .int 4]], .list [.list [.int 5, .null]], .null]

theorem monthPrices_distinctPlaces : DistinctPlaces monthPrices [pricedScenarios] monthColumn := by
  unfold DistinctPlaces
  decide

/-- The rows of a scenario, found by their order. -/
theorem eq_of_monthPrices {point : List Value} {rows others : List Nat}
    (along : AlongAxis monthPrices [pricedScenarios] monthColumn point rows)
    (perm : others.Perm (monthPrices.rowIndices.filter fun row => Table.cells [pricedScenarios] row = point))
    (ascending : InOrder (others.map monthColumn.cell)) : others = rows :=
  along.eq_of_perm monthPrices_distinctPlaces (perm.trans along.perm.symm) ascending

/-- What the scenarios have of some columns, month by month. -/
theorem eq_of_threeScenarios {columns : List Column} {values : List Value}
    (height : values.length = threeScenarios.rowCount)
    (each : ∀ row < threeScenarios.rowCount, ∃ rows elements,
      AlongAxis monthPrices [pricedScenarios] monthColumn (threeScenarios.point row) rows ∧
      List.Forall₂ (fun found element => IsElement found columns element) rows elements ∧
      values[row]? = some (if rows = [] then .null else .list elements)) :
    values = [.list [vectorElement columns 1, vectorElement columns 0], .list [vectorElement columns 2], .null] := by
  obtain ⟨base, _, baseAlong, baseElements, baseValue⟩ := each 0 (by decide)
  obtain ⟨first, _, firstAlong, firstElements, firstValue⟩ := each 1 (by decide)
  obtain ⟨second, _, secondAlong, secondElements, secondValue⟩ := each 2 (by decide)
  obtain rfl : [1, 0] = base := eq_of_monthPrices baseAlong (by decide) (by unfold InOrder; decide)
  obtain rfl : [2] = first := eq_of_monthPrices firstAlong (by decide) (by unfold InOrder; decide)
  obtain rfl : [] = second := eq_of_monthPrices secondAlong (by decide) (by unfold InOrder; decide)
  obtain rfl := forall₂_isElement.mp baseElements
  obtain rfl := forall₂_isElement.mp firstElements
  match values, height, baseValue, firstValue, secondValue with
  | [_, _, _], _, baseValue, firstValue, secondValue =>
    obtain rfl := Option.some.inj baseValue
    obtain rfl := Option.some.inj firstValue
    obtain rfl := Option.some.inj secondValue
    rfl

/-- The prices are in the order of the months, however the rows stand, alone or with the tax on each; and a scenario
without rows has none. -/
theorem monthPrices_along_axis :
    threeScenarios.groupingNames ⊆ monthPrices.names ∧ "month" ∈ monthPrices.names ∧
      ["price", "tax"] ⊆ monthPrices.names ∧
      vectorColumn ["price"] "month" none threeScenarios monthPrices = .ok pricesByMonth ∧
      vectorColumn ["price"] "month" none threeScenarios (monthPrices.takeRows [1, 2, 0]) = .ok pricesByMonth ∧
      vectorColumn ["price", "tax"] "month" none threeScenarios monthPrices = .ok taxedPricesByMonth := by
  have grouped : threeScenarios.groupingNames ⊆ monthPrices.names := by decide
  have split : "month" ∈ monthPrices.names := by decide
  have measured : ["price", "tax"] ⊆ monthPrices.names := by decide
  have collected (components : List String) (included : components ⊆ monthPrices.names)
      (found : List Column) (found_eq : monthPrices.columnsNamed components = .ok found) :
      ∃ values, values = [.list [vectorElement found 1, vectorElement found 0], .list [vectorElement found 2], .null] ∧
        vectorColumn components "month" none threeScenarios monthPrices = .ok values ∧
        vectorColumn components "month" none threeScenarios (monthPrices.takeRows [1, 2, 0]) = .ok values := by
    obtain ⟨grouping, axis, columns, values, groupingFound, axisFound, columnsFound, made, height, each, unordered⟩ :=
      vectorColumn_along_axis components "month" threeScenarios monthPrices grouped split included
    have scenarioFound : monthPrices.columnsNamed threeScenarios.groupingNames = .ok [pricedScenarios] := rfl
    have monthFound : monthPrices.find? "month" = some monthColumn := rfl
    obtain rfl := Except.ok.inj ((Table.columnsNamed_eq_ok.mpr groupingFound).symm.trans scenarioFound)
    obtain rfl := Option.some.inj (axisFound.symm.trans monthFound)
    obtain rfl := Except.ok.inj ((Table.columnsNamed_eq_ok.mpr columnsFound).symm.trans found_eq)
    exact ⟨values, eq_of_threeScenarios height each, made,
      unordered monthPrices_distinctPlaces [1, 2, 0] (by decide)⟩
  obtain ⟨prices, rfl, made, unordered⟩ := collected ["price"] (by decide) [priceColumn] rfl
  obtain ⟨taxed, rfl, taxedMade, -⟩ := collected ["price", "tax"] measured [priceColumn, taxColumn] rfl
  exact ⟨grouped, split, measured, made, unordered, taxedMade⟩

end CubeQuery
