import CubeQuery.Graph

/-!
A graph printed as a tree: one line for each path from a root. A node that is already on its path
is printed and not followed.
-/

namespace CubeQuery.Graph

variable {ν : Type} [DecidableEq ν]

/-- The lines below a place: depth and place, depth first. The path is in reverse, and the first
argument bounds its length. -/
def linesFrom (graph : Graph ν) : Nat → List Nat → Nat → List (Nat × Nat)
  | 0, _, _ => []
  | bound + 1, path, index =>
    (path.length, index) ::
      if path.contains index then []
      else (graph.sortedSuccessors index).flatMap (graph.linesFrom bound (index :: path))

def lines (graph : Graph ν) : List (Nat × Nat) :=
  graph.rootIndices.flatMap (graph.linesFrom (graph.size + 1) [])

/-- One tab of indentation for each step from the root. -/
def tree (graph : Graph ν) (label : Nat → ν → String) : String :=
  String.join <| graph.lines.map fun (depth, index) =>
    String.ofList (List.replicate depth '\t')
      ++ (match graph.nodes[index]? with
        | some node => label index node
        | none => "")
      ++ "\n"

end CubeQuery.Graph
