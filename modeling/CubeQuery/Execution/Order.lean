import CubeQuery.Query
import CubeQuery.Table

/-!
The order of the rows of a result. Totals come first under every order, and rows that are equal on
all keys keep their places.
-/

namespace CubeQuery

/-- Whether a cell is a total, totals first. -/
def compareTotals (a b : Value) : Ordering :=
  match a.isTotal, b.isTotal with
  | true, false => .lt
  | false, true => .gt
  | _, _ => .eq

/-- Listed values by their first place in the list, the others behind them. -/
def compareListed (listed : List Value) (a b : Value) : Ordering :=
  match listed.idxOf? a, listed.idxOf? b with
  | some i, some j => compare i j
  | some _, none => .lt
  | none, some _ => .gt
  | none, none => compare a b

def SortOrder.compareValues : SortOrder → Value → Value → Ordering
  | .simple .asc, a, b => compare a b
  | .simple .desc, a, b => compare b a
  | .explicit listed, a, b => compareListed listed a b

def SortOrder.compareCells (order : SortOrder) (a b : Value) : Ordering :=
  if a.isTotal && b.isTotal then .eq else (compareTotals a b).then (order.compareValues a b)

namespace Table

/-- A column to order by. -/
structure SortKey where
  column : Column
  order : SortOrder

/-- Without orders, the grouping columns are the keys. -/
def sortKeys (table : Table) : List (Field × SortOrder) → Except TableError (List SortKey)
  | [] => .ok (table.groupingColumns.map (⟨·, .simple .asc⟩))
  | orders => orders.mapM fun (field, order) => do return ⟨← table.column field.name, order⟩

def compareRows : List SortKey → Nat → Nat → Ordering
  | [], _, _ => .eq
  | key :: keys, a, b =>
    (key.order.compareCells (key.column.cell a) (key.column.cell b)).then (compareRows keys a b)

def ordered (table : Table) (orders : List (Field × SortOrder)) : Except TableError Table := do
  let keys ← table.sortKeys orders
  return table.takeRows (table.rowIndices.mergeSort fun a b => compareRows keys a b != .gt)

end Table

end CubeQuery
