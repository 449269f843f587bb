import CubeQuery.Error
import CubeQuery.Graph

/-!
Cycles of a graph. A depth-first search gives the order in which nodes are finished; of the
components that form a cycle, the one whose last node is finished first is reported.
-/

namespace CubeQuery.Graph

variable {ν : Type} [DecidableEq ν]

/-- Follows edges from the given places until nothing new is found; the first argument bounds the
number of places that are looked at. -/
def explore (graph : Graph ν) : Nat → List Nat → List Nat → List Nat
  | 0, _, found => found
  | _ + 1, [], found => found
  | bound + 1, place :: rest, found =>
    if found.contains place then graph.explore bound rest found
    else graph.explore bound (graph.successors place ++ rest) (place :: found)

/-- The places that a path of one or more edges leads to. -/
def reachable (graph : Graph ν) (index : Nat) : List Nat :=
  graph.explore (2 * graph.edges.length + 1) (graph.successors index) []

/-- What every place reaches. -/
def reachTable (graph : Graph ν) : List (List Nat) := graph.indices.map graph.reachable

def reaches (table : List (List Nat)) (index other : Nat) : Bool :=
  (table[index]?.getD []).contains other

def onCycle (table : List (List Nat)) (index : Nat) : Bool := reaches table index index

/-- The places on a common cycle with the given one, in order. -/
def component (table : List (List Nat)) (index : Nat) : List Nat :=
  (List.range table.length).filter fun other => reaches table index other && reaches table other index

/-- Every component that forms a cycle, in the order of its first node. -/
def cycles (graph : Graph ν) : List (List Nat) :=
  let table := graph.reachTable
  (graph.indices.filter fun index =>
    onCycle table index && (component table index).head? == some index).map (component table)

/-- The nodes that a depth-first search has entered, and those that it has left, the last one first. -/
structure Search where
  entered : List Nat
  finished : List Nat

/-- Searches from the given places in turn. Successors are tried from the most recently added one
on. The first argument bounds the depth. -/
def search (graph : Graph ν) : Nat → List Nat → Search → Search
  | 0, _, state => state
  | depth + 1, places, state =>
    places.foldl (fun state index =>
      if state.entered.contains index then state
      else
        let inner := graph.search depth (graph.successors index).reverse
          { state with entered := index :: state.entered }
        { inner with finished := index :: inner.finished }) state

/-- The places in the order in which a search of the whole graph finishes them. -/
def finishOrder (graph : Graph ν) : List Nat :=
  (graph.search (graph.size + 1) graph.indices ⟨[], []⟩).finished.reverse

/-- The first place in the list after which no place of its cycle follows. -/
def firstClosed (table : List (List Nat)) : List Nat → Option Nat
  | [] => none
  | index :: rest =>
    if onCycle table index && !rest.any (component table index).contains then some index
    else firstClosed table rest

/-- The cycle that is reported: the nodes of one component in order, and the first once more. -/
def reportedCycle? (graph : Graph ν) : Option (List ν) :=
  let table := graph.reachTable
  (firstClosed table graph.finishOrder).map fun index =>
    let nodes := graph.nodesAt (component table index)
    nodes ++ nodes.take 1

def checkAcyclic (graph : Graph ν) (name : ν → String) : Except QueryError Unit :=
  match graph.reportedCycle? with
  | none => .ok ()
  | some cycle => .error (.cyclicDependency (cycle.map name))

end CubeQuery.Graph
