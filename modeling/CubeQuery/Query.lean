import CubeQuery.Criteria
import CubeQuery.Datastore

/-!
Queries: where rows come from, how they are filtered and grouped, and which measures are asked for.
-/

namespace CubeQuery

inductive JoinType where
  | inner
  | left
  | right
  | full
  | cross
deriving DecidableEq

def JoinType.sql : JoinType → String
  | .inner => "inner join"
  | .left => "left join"
  | .right => "right join"
  | .full => "full join"
  | .cross => "cross join"

mutual

/-- A table with the tables that are joined to it, which may have joins of their own. -/
structure TableRef where
  name : String
  joins : List Join

structure Join where
  table : TableRef
  type : JoinType
  criteria : Option Criteria

end

namespace TableRef

def ofName (name : String) : TableRef := ⟨name, []⟩

instance : Inhabited TableRef := ⟨.ofName ""⟩

def join (table : TableRef) (other : TableRef) (type : JoinType) (criteria : Option Criteria) :
    TableRef :=
  ⟨table.name, table.joins ++ [⟨other, type, criteria⟩]⟩

mutual

/-- The table and every joined table, depth first in the order of the joins. -/
def tableNames : TableRef → List String
  | ⟨name, joins⟩ => name :: joinedNames joins

def joinedNames : List Join → List String
  | [] => []
  | ⟨table, _, _⟩ :: rest => table.tableNames ++ joinedNames rest

end

mutual

protected def decEq : (a b : TableRef) → Decidable (a = b)
  | ⟨name, joins⟩, ⟨name', joins'⟩ =>
    have := TableRef.joinsDecEq joins joins'
    decidable_of_iff (name = name' ∧ joins = joins') (by simp)

protected def joinsDecEq : (as bs : List Join) → Decidable (as = bs)
  | [], [] => isTrue rfl
  | ⟨table, type, criteria⟩ :: as, ⟨table', type', criteria'⟩ :: bs =>
    have := TableRef.decEq table table'
    have := TableRef.joinsDecEq as bs
    decidable_of_iff ((table = table' ∧ type = type' ∧ criteria = criteria') ∧ as = bs) (by simp)
  | [], _ :: _ | _ :: _, [] => isFalse nofun

end

instance : DecidableEq TableRef := TableRef.decEq

end TableRef

/-- A table given by its rows. -/
structure VirtualTable where
  name : String
  fields : List String
  records : List (List Value)
deriving DecidableEq

inductive Direction where
  | asc
  | desc
deriving DecidableEq

inductive SortOrder where
  | simple (direction : Direction)
  /-- The listed values first, in the order of the list. -/
  | explicit (values : List Value)
deriving DecidableEq

inductive CacheAction where
  | use
  | notUse
  | invalidate
deriving DecidableEq

inductive Parameter where
  | queryCache (action : CacheAction)
deriving DecidableEq

/-- Of `table` and `subQuery` a query has one; of `rollup` and `groupingSets` it has at most one. -/
structure Query where
  table : Option TableRef
  subQuery : Option Query
  columns : List Field
  rollup : List Field
  groupingSets : List (List Field)
  bucketSet : Option BucketSet
  measures : List Measure
  whereCriteria : Option Criteria
  havingCriteria : Option Criteria
  orders : List (Field × SortOrder)
  limit : Option Nat
  virtualTables : List VirtualTable
  parameters : SortedMap String Parameter

namespace Query

def empty : Query :=
  ⟨none, none, [], [], [], none, [], none, none, [], none, [], .empty⟩

instance : Inhabited Query := ⟨empty⟩

protected def decEq : (a b : Query) → Decidable (a = b)
  | ⟨a0, a1, a2, a3, a4, a5, a6, a7, a8, a9, a10, a11, a12⟩,
    ⟨b0, b1, b2, b3, b4, b5, b6, b7, b8, b9, b10, b11, b12⟩ =>
    have : Decidable (a1 = b1) :=
      match a1, b1 with
      | none, none => isTrue rfl
      | some a, some b =>
        have := Query.decEq a b
        decidable_of_iff (a = b) (by simp)
      | none, some _ | some _, none => isFalse nofun
    decidable_of_iff
      (a0 = b0 ∧ a1 = b1 ∧ a2 = b2 ∧ a3 = b3 ∧ a4 = b4 ∧ a5 = b5 ∧ a6 = b6 ∧ a7 = b7 ∧ a8 = b8
        ∧ a9 = b9 ∧ a10 = b10 ∧ a11 = b11 ∧ a12 = b12) (by simp)

instance : DecidableEq Query := Query.decEq

/-- The parameter that says how the cache is used. -/
def cacheParameter : String := "cache"

/-- Gives vectors that the query asks for their transformers, by label. -/
def withTransformers (query : Query) (transformer : String → Option String) : Query :=
  { query with
    measures := query.measures.map fun
      | .vector label components axis old =>
        .vector label components axis ((transformer label).orElse fun _ => old)
      | measure => measure }

def cacheAction (query : Query) : CacheAction :=
  match query.parameters.get? cacheParameter with
  | some (.queryCache action) => action
  | none => .use

end Query

end CubeQuery
