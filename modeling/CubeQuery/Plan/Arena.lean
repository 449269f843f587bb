import CubeQuery.Measure

/-!
The measures of a query by label. Operands at any depth are collected, so a measure that several
others share is computed once.
-/

namespace CubeQuery

namespace Measure

/-- The label of the `index`-th aggregate behind a vector. -/
def componentLabel (vector : String) (index : Nat) : String :=
  "__" ++ vector ++ "_" ++ toString index ++ "__"

/-- The aggregates that a vector collects along its axis. -/
def componentsFrom (vector : String) : Nat → List (Field × String) → List Measure
  | _, [] => []
  | index, (field, aggregation) :: rest =>
    .aggregated (componentLabel vector index) field aggregation none
      :: componentsFrom vector (index + 1) rest

def components (vector : String) (fields : List (Field × String)) : List Measure :=
  componentsFrom vector 0 fields

/-- The labels that a measure reads, in the order of its operands. -/
def operands : Measure → List String
  | .binary _ _ left right => [left.label, right.label]
  | .comparison _ _ base _ _ _ _ => [base.label]
  | .vector label fields _ _ => (components label fields).map Measure.label
  | _ => []

end Measure

structure Arena where
  /-- One measure for each label, in the order of registration. -/
  measures : List Measure

namespace Arena

def empty : Arena := ⟨[]⟩

def find? (arena : Arena) (label : String) : Option Measure :=
  arena.measures.find? (·.label = label)

def get (arena : Arena) (label : String) : Except QueryError Measure :=
  match arena.find? label with
  | some measure => .ok measure
  | none => .error (.unknownMeasure label)

/-- Adds a measure with a new label and then its operands, as `more` does. A known label has to
stand for the same definition. -/
def add (arena : Arena) (measure : Measure) (more : Arena → Except QueryError Arena) :
    Except QueryError Arena :=
  match arena.find? measure.label with
  | some known =>
    if known.sameDefinition measure then .ok arena
    else .error (.duplicateMeasureLabel measure.label)
  | none => more ⟨arena.measures ++ [measure]⟩

def registerComponents (arena : Arena) : List Measure → Except QueryError Arena
  | [] => .ok arena
  | component :: rest => do
    let arena ← arena.add component .ok
    arena.registerComponents rest

def register (arena : Arena) : Measure → Except QueryError Arena
  | .ref _ => .ok arena
  | .binary label operator left right =>
    arena.add (.binary label operator left right) fun arena => do
      let arena ← arena.register left
      arena.register right
  | .comparison label method base positions period columnSet ancestors =>
    arena.add (.comparison label method base positions period columnSet ancestors) fun arena =>
      arena.register base
  | .vector label fields axis transformer =>
    arena.add (.vector label fields axis transformer) fun arena =>
      arena.registerComponents (Measure.components label fields)
  | measure => arena.add measure .ok

def registerAll (arena : Arena) : List Measure → Except QueryError Arena
  | [] => .ok arena
  | measure :: rest => do
    let arena ← arena.register measure
    arena.registerAll rest

/-- The first label that a measure reads and no measure has. -/
def dangling? (arena : Arena) : Option String :=
  (arena.measures.flatMap Measure.operands).find? fun label => (arena.find? label).isNone

def build (measures : List Measure) : Except QueryError Arena := do
  let arena ← empty.registerAll measures
  match arena.dangling? with
  | some label => throw (.unknownMeasure label)
  | none => return arena

def size (arena : Arena) : Nat := arena.measures.length

end Arena

end CubeQuery
