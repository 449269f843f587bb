import CubeQuery.Graph.Tree
import CubeQuery.Plan.Discovery
import CubeQuery.Plan.Lowering

/-!
Plans: the scopes that a query needs and the graph of the measures computed in them.
-/

namespace CubeQuery

structure Plan where
  root : ScopeKey
  arena : Arena
  /-- The labels that the query asks for, each once. -/
  requested : List String
  discovery : Discovery

namespace Plan

/-- The labels asked for, without repetitions. Each has to be known. -/
def requestedLabels (arena : Arena) : List Measure → List String → Except QueryError (List String)
  | [], found => .ok found
  | measure :: rest, found => do
    let _ ← arena.get measure.label
    requestedLabels arena rest
      (if found.contains measure.label then found else found ++ [measure.label])

def build (query : Query) : Except QueryError Plan := do
  if query.table.isSome == query.subQuery.isSome then throw (.invalidQuery .notOneSource)
  let arena ← Arena.build query.measures
  let scope := Scope.ofQuery query
  let root := scope.key
  let requested ← requestedLabels arena query.measures []
  let start : Discovery :=
    ⟨[(root, scope)], requested.foldl (fun graph label => graph.addNode ⟨root, label⟩) .empty⟩
  let discovery ← start.run arena (Discovery.nodeBound arena scope + 1) 0
  discovery.graph.checkAcyclic PlanNode.name
  return ⟨root, arena, requested, discovery⟩

def graph (plan : Plan) : Graph PlanNode := plan.discovery.graph

def scope (plan : Plan) (key : ScopeKey) : Except QueryError Scope := plan.discovery.scope key

def rootScope (plan : Plan) : Except QueryError Scope := plan.scope plan.root

def scopeKeys (plan : Plan) : List ScopeKey := plan.discovery.scopes.map (·.1)

/-- The measures that the database computes for a scope. A scope that is read for its rows alone
counts them. -/
def databaseMeasures (plan : Plan) (key : ScopeKey) : Except QueryError (List Measure) := do
  let measures ← (plan.graph.nodes.filter (·.scope = key)).mapM fun node => plan.arena.get node.measure
  match measures.filter Measure.isPrimitive with
  | [] => return [.defaultCount]
  | primitive => return primitive

/-- The nodes that are evaluated in memory, in layers, dependencies first. -/
def inMemoryLayers (plan : Plan) : Except QueryError (List (List PlanNode)) := do
  let layers ← plan.graph.layers PlanNode.name
  let layers ← layers.mapM fun layer => layer.filterM fun node => do
    return !(← plan.arena.get node.measure).isPrimitive
  return layers.filter fun layer => !layer.isEmpty

/-- What one scope asks of the database. -/
structure ScopeTask where
  key : ScopeKey
  scope : Scope
  measures : List Measure
  statement : Statement

def task (datastore : Datastore) (plan : Plan) (key : ScopeKey) : Except QueryError ScopeTask := do
  let measures ← plan.databaseMeasures key
  let scope ← plan.scope key
  return ⟨key, scope, measures, ← scope.lower datastore measures⟩

/-- One task for each scope, in the order of discovery. -/
def tasks (datastore : Datastore) (plan : Plan) : Except QueryError (List ScopeTask) :=
  plan.scopeKeys.mapM (plan.task datastore)

def scopeNumber (plan : Plan) (key : ScopeKey) : Nat := plan.scopeKeys.idxOf key

def nodeText (plan : Plan) (index : Nat) (node : PlanNode) : String :=
  "#" ++ toString (index + 1) ++ ", n=scope=#" ++ toString (plan.scopeNumber node.scope)
    ++ ", measure=[" ++ node.measure ++ "]; ["
    ++ ((plan.arena.find? node.measure).elim "" Measure.expressionText) ++ "]"

/-- The tree of measures, then the scopes. -/
def text (plan : Plan) : String :=
  plan.graph.tree plan.nodeText ++ "Scopes:\n"
    ++ String.join (plan.discovery.scopes.mapIdx fun index (_, scope) =>
      "#" ++ toString index ++ ": " ++ scope.text ++ "\n")

end Plan

end CubeQuery
