/-!
Variables and their values. A variable is kept as its name, an equals sign and its value; what is
looked for is the text before an equals sign, which need not be the first one.
-/

namespace CubeQuery

structure Environment where
  entries : List (String × String)

namespace Environment

/-- What comes after a text at the start of another. -/
def after? (start text : List Char) : Option (List Char) :=
  if start.isPrefixOf text then some (text.drop start.length) else none

def valueOf (environment : Environment) (name : String) : Option String :=
  if name.isEmpty then none
  else environment.entries.findSome? fun (key, value) =>
    (after? (name ++ "=").toList (key ++ "=" ++ value).toList).map String.ofList

end Environment

end CubeQuery
