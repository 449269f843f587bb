import CubeQuery.ScopeKey

/-!
The locks of scopes, with the number of handles that are held on each. A lock is forgotten only
when nobody holds it.
-/

namespace CubeQuery

structure ScopeLock where
  scope : ScopeKey
  handles : Nat
deriving DecidableEq

structure ScopeLocks where
  locks : List ScopeLock
deriving DecidableEq

namespace ScopeLocks

def none : ScopeLocks := ⟨[]⟩

def count (locks : ScopeLocks) : Nat := locks.locks.length

/-- Takes a handle on the lock of a scope, which is made if there is none. -/
def take (locks : ScopeLocks) (scope : ScopeKey) : ScopeLocks :=
  if locks.locks.any (·.scope = scope) then
    ⟨locks.locks.map fun lock =>
      if lock.scope = scope then { lock with handles := lock.handles + 1 } else lock⟩
  else ⟨locks.locks ++ [⟨scope, 1⟩]⟩

/-- Gives a handle back; the lock stays. -/
def giveBack (locks : ScopeLocks) (scope : ScopeKey) : ScopeLocks :=
  ⟨locks.locks.map fun lock =>
    if lock.scope = scope then { lock with handles := lock.handles - 1 } else lock⟩

/-- Forgets the lock of a scope unless it is held. -/
def release (locks : ScopeLocks) (scope : ScopeKey) : ScopeLocks :=
  ⟨locks.locks.filter fun lock => lock.scope ≠ scope || lock.handles ≠ 0⟩

/-- Forgets every lock that is not held. -/
def releaseAll (locks : ScopeLocks) : ScopeLocks :=
  ⟨locks.locks.filter fun lock => lock.handles ≠ 0⟩

end ScopeLocks

end CubeQuery
