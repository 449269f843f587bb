/-!
Keys of scopes: the digest of a scope's text. Messages show the first twelve bytes of it.
-/

namespace CubeQuery

structure ScopeKey where
  digest : String
deriving DecidableEq, Inhabited

namespace ScopeKey

/-- The characters that fill exactly so many bytes. -/
def leadingBytes? : Nat → List Char → Option (List Char)
  | 0, _ => some []
  | _ + 1, [] => none
  | bytes + 1, c :: rest =>
    if c.utf8Size ≤ bytes + 1 then (leadingBytes? (bytes + 1 - c.utf8Size) rest).map (c :: ·) else none

def short (key : ScopeKey) : String :=
  match leadingBytes? 12 key.digest.toList with
  | some chars => String.ofList chars
  | none => key.digest

end ScopeKey

end CubeQuery
