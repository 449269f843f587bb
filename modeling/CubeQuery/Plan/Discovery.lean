import CubeQuery.Graph.Layer
import CubeQuery.Plan.Arena
import CubeQuery.Plan.Reference

/-!
Discovery of what a query needs: pairs of a scope and a measure, each with the pairs it depends on.
Pairs are expanded in the order in which they are found, until every pair found has been expanded.
-/

namespace CubeQuery

/-- One measure computed in one scope. -/
structure PlanNode where
  scope : ScopeKey
  measure : String
deriving DecidableEq

def PlanNode.name (node : PlanNode) : String := node.measure ++ "@" ++ node.scope.short

/-- The scopes and measures that a measure reads when it is computed in a scope. -/
def Measure.dependencies (scope : Scope) (measure : Measure) :
    Except QueryError (List (Scope × String)) :=
  match measure with
  | .binary _ _ _ _ => .ok (measure.operands.map (scope, ·))
  | .comparison label _ _ _ period columnSet ancestors => do
    let reference ← scope.forComparison label period columnSet ancestors
    return measure.operands.map (scope, ·)
      ++ if reference = scope then [] else measure.operands.map (reference, ·)
  | .vector _ _ axis _ => .ok (measure.operands.map (scope.forVector axis, ·))
  | _ => .ok []

structure Discovery where
  /-- Every scope found, the root first. -/
  scopes : List (ScopeKey × Scope)
  graph : Graph PlanNode

namespace Discovery

def scope (discovery : Discovery) (key : ScopeKey) : Except QueryError Scope :=
  match discovery.scopes.lookup key with
  | some scope => .ok scope
  | none => .error (.incorrectPath (.scopeNotPlanned key))

def addScope (discovery : Discovery) (key : ScopeKey) (scope : Scope) : Discovery :=
  if (discovery.scopes.lookup key).isSome then discovery
  else { discovery with scopes := discovery.scopes ++ [(key, scope)] }

def addDependency (node : PlanNode) (discovery : Discovery) (dependency : Scope × String) : Discovery :=
  let key := dependency.1.key
  let grown := discovery.addScope key dependency.1
  { grown with graph := grown.graph.addDependency node ⟨key, dependency.2⟩ }

def expand (arena : Arena) (discovery : Discovery) (node : PlanNode) : Except QueryError Discovery := do
  let scope ← discovery.scope node.scope
  let measure ← arena.get node.measure
  return (← measure.dependencies scope).foldl (addDependency node) discovery

/-- Expands the node at a place and those after it; the first argument bounds their number. -/
def run (arena : Arena) : Nat → Nat → Discovery → Except QueryError Discovery
  | 0, _, discovery => .ok discovery
  | bound + 1, place, discovery =>
    match discovery.graph.nodes[place]? with
    | none => .ok discovery
    | some node => do
      let grown ← discovery.expand arena node
      run arena bound (place + 1) grown

/-- How many ancestors a measure names. -/
def ancestorCount : Measure → Nat
  | .comparison _ _ _ _ _ _ (some ancestors) => ancestors.length
  | _ => 0

def totalAncestors (arena : Arena) : Nat :=
  arena.measures.foldr (fun measure count => ancestorCount measure + count) 0

/-- Bounds the number of scopes that are derived from `root`: the filters after grouping are kept or
dropped, criteria lose a set of period fields, columns gain a list of axes, and a rollup is a list
over the rollup, the columns and the axes. -/
def scopeBound (arena : Arena) (root : Scope) : Nat :=
  let measures := arena.size
  let fields := root.rollup.length + root.columns.length + measures
  let places := root.rollup.length + totalAncestors arena
  2 * (Nat.pow 2 (2 * measures) + 1) * Nat.pow (measures + 1) measures * Nat.pow (fields + 1) places

def nodeBound (arena : Arena) (root : Scope) : Nat := arena.size * scopeBound arena root

end Discovery

end CubeQuery
