/-!
Directed graphs of dependencies. Nodes and edges are kept in the order in which they were added, and
each is kept once; an edge leads from a consumer to what it depends on.
-/

namespace CubeQuery

structure Graph (ν : Type) where
  nodes : List ν
  /-- Pairs of places in the list of nodes. -/
  edges : List (Nat × Nat)

namespace Graph

variable {ν : Type} [DecidableEq ν]

def empty : Graph ν := ⟨[], []⟩

instance : Inhabited (Graph ν) := ⟨⟨[], []⟩⟩

def size (graph : Graph ν) : Nat := graph.nodes.length

def indexOf? (graph : Graph ν) (node : ν) : Option Nat := graph.nodes.findIdx? (· = node)

def addNode (graph : Graph ν) (node : ν) : Graph ν :=
  if node ∈ graph.nodes then graph else { graph with nodes := graph.nodes ++ [node] }

def addEdge (graph : Graph ν) (consumer dependency : Nat) : Graph ν :=
  if (consumer, dependency) ∈ graph.edges then graph
  else { graph with edges := graph.edges ++ [(consumer, dependency)] }

/-- Adds the nodes that are new, the consumer first, and the edge between them. -/
def addDependency (graph : Graph ν) (consumer dependency : ν) : Graph ν :=
  let grown := (graph.addNode consumer).addNode dependency
  match grown.indexOf? consumer, grown.indexOf? dependency with
  | some i, some j => grown.addEdge i j
  | _, _ => grown

def indices (graph : Graph ν) : List Nat := List.range graph.size

/-- The nodes at given places. -/
def nodesAt (graph : Graph ν) (places : List Nat) : List ν := places.filterMap (graph.nodes[·]?)

/-- What a node depends on, in the order in which the edges were added. -/
def successors (graph : Graph ν) (index : Nat) : List Nat :=
  (graph.edges.filter (·.1 = index)).map (·.2)

/-- What a node depends on, in the order of the nodes. -/
def sortedSuccessors (graph : Graph ν) (index : Nat) : List Nat :=
  (graph.successors index).mergeSort

def dependencies (graph : Graph ν) (node : ν) : List ν :=
  match graph.indexOf? node with
  | some index => graph.nodesAt (graph.sortedSuccessors index)
  | none => []

def isRoot (graph : Graph ν) (index : Nat) : Bool := !graph.edges.any (·.2 = index)

/-- The places of the nodes that nothing depends on. -/
def rootIndices (graph : Graph ν) : List Nat := graph.indices.filter graph.isRoot

def roots (graph : Graph ν) : List ν := graph.nodesAt graph.rootIndices

end Graph

end CubeQuery
