import CubeQuery.Measure

/-!
The fields that criteria filter on, and criteria without those that filter on given fields.
-/

namespace CubeQuery.Criteria

mutual

/-- The fields of the leaves, from left to right. -/
def fields : Criteria → List Field
  | .onField field _ => [field]
  | .onPair left right _ => [left, right]
  | .onMeasure _ _ => []
  | .logical _ children => fieldsOfList children

def fieldsOfList : List Criteria → List Field
  | [] => []
  | child :: rest => child.fields ++ fieldsOfList rest

end

mutual

/-- Drops the leaves that test one of the fields, and every node that has nothing left. -/
def withoutFields (dropped : List Field) : Criteria → Option Criteria
  | .onField field condition => if field ∈ dropped then none else some (.onField field condition)
  | .logical type children =>
    match listWithoutFields dropped children with
    | [] => none
    | kept => some (.logical type kept)
  | criteria => some criteria

def listWithoutFields (dropped : List Field) : List Criteria → List Criteria
  | [] => []
  | child :: rest =>
    match withoutFields dropped child with
    | none => listWithoutFields dropped rest
    | some kept => kept :: listWithoutFields dropped rest

end

end CubeQuery.Criteria
