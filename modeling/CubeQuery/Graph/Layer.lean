import CubeQuery.Graph.Cycle

/-!
The layers of a graph without cycles: a node stands in the first layer that comes after all its
dependencies. Each place counts the dependencies that it still waits for.
-/

namespace CubeQuery.Graph

variable {ν : Type} [DecidableEq ν]

/-- The places that depend on a place, in the order in which the edges were added. -/
def consumers (graph : Graph ν) (index : Nat) : List Nat :=
  (graph.edges.filter (·.2 = index)).map (·.1)

/-- How many dependencies each place has. -/
def dependencyCounts (graph : Graph ν) : List Nat :=
  graph.indices.map fun index => (graph.successors index).length

/-- Takes one from the count of each consumer of a place. -/
def release (graph : Graph ν) (waiting : List Nat) (index : Nat) : List Nat :=
  (graph.consumers index).foldl (fun waiting consumer => waiting.modify consumer (· - 1)) waiting

/-- The places that are not done and wait for nothing. -/
def ready (graph : Graph ν) (waiting done : List Nat) : List Nat :=
  graph.indices.filter fun index => !done.contains index && waiting[index]? == some 0

/-- Layers until every place is done. It is an error if none is ready before that. -/
def layersFrom (graph : Graph ν) (waiting done : List Nat) : Except QueryError (List (List Nat)) :=
  if done.length < graph.size then
    match graph.ready waiting done with
    | [] => .error (.cyclicDependency [])
    | first :: others => do
      let layer := first :: others
      let rest ← graph.layersFrom (layer.foldl graph.release waiting) (done ++ layer)
      return layer :: rest
  else .ok []
termination_by graph.size - done.length
decreasing_by simp only [List.length_append, List.length_cons]; omega

def layerIndices (graph : Graph ν) : Except QueryError (List (List Nat)) :=
  graph.layersFrom graph.dependencyCounts []

/-- Dependencies first; within a layer the order of the nodes. -/
def layers (graph : Graph ν) (name : ν → String) : Except QueryError (List (List ν)) := do
  graph.checkAcyclic name
  return (← graph.layerIndices).map graph.nodesAt

def topologicalOrder (graph : Graph ν) (name : ν → String) : Except QueryError (List ν) := do
  return (← graph.layers name).flatten

end CubeQuery.Graph
