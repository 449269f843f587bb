import CubeQuery.Field

/-!
Bucket sets: named groups of the values of one column, which become a column of their own. A value
may be listed by several buckets.
-/

namespace CubeQuery

/-- The kinds of column sets that a comparison can name. -/
inductive ColumnSetKey where
  | bucket
deriving DecidableEq

structure Bucket where
  name : String
  members : List Value
deriving DecidableEq

structure BucketSet where
  name : String
  field : Field
  buckets : List Bucket
deriving DecidableEq

namespace BucketSet

/-- The column that the set adds. -/
def newColumn (set : BucketSet) : Field := .ofName set.name

/-- The names of the buckets that list a value, in the order of the buckets. -/
def bucketsOf (set : BucketSet) (value : Value) : List String :=
  (set.buckets.filter fun bucket => value ∈ bucket.members).map (·.name)

end BucketSet

end CubeQuery
