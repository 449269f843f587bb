import CubeQuery.Plan.Scope
import CubeQuery.Table

/-!
The rows of a table, once for each bucket that lists their value.
-/

namespace CubeQuery

/-- The rows of the expanded table with their buckets: in the order of the rows, then of the
buckets. -/
def BucketSet.placements (set : BucketSet) (source : Column) : List (Nat × String) :=
  (List.range source.values.length).flatMap fun row =>
    (set.bucketsOf (source.cell row)).map (row, ·)

/-- Adds the column of a bucket set in front of the others. -/
def Table.expandSet (table : Table) (set : BucketSet) : Except QueryError Table :=
  match table.find? set.field.name with
  | none => .error (.invalidQuery (.bucketSourceNotSelected set.newColumn.name set.field.name))
  | some source =>
    let placements := set.placements source
    let buckets : Column :=
      ⟨.grouping set.newColumn.name .string, placements.map fun (_, bucket) => .str bucket⟩
    match (table.takeRows (placements.map (·.1))).insertColumn 0 buckets with
    | .ok expanded => .ok expanded
    | .error error => .error (.table error)

def Table.expandBuckets (table : Table) (scope : Scope) : Except QueryError Table :=
  match scope.bucketSet with
  | none => .ok table
  | some set => table.expandSet set

end CubeQuery
