/-!
How identifiers are quoted.
-/

namespace CubeQuery

inductive Quoting where
  | bare
  /-- Between two marks; a mark inside is written twice. -/
  | marked (mark : Char)
deriving DecidableEq

namespace Quoting

def double (mark : Char) : List Char → List Char
  | [] => []
  | c :: rest => if c = mark then mark :: mark :: double mark rest else c :: double mark rest

def quoteChars (quoting : Quoting) (identifier : List Char) : List Char :=
  match quoting with
  | .bare => identifier
  | .marked mark => mark :: double mark identifier ++ [mark]

def quote (quoting : Quoting) (identifier : String) : String :=
  String.ofList (quoting.quoteChars identifier.toList)

end Quoting

/-- The parts of a text between its points; there is always one. -/
def splitAtPoints : List Char → List (List Char)
  | [] => [[]]
  | c :: rest =>
    if c = '.' then [] :: splitAtPoints rest
    else match splitAtPoints rest with
      | [] => [[c]]
      | first :: others => (c :: first) :: others

end CubeQuery
