import CubeQuery.Cache.Locks
import CubeQuery.Plan.Scope
import CubeQuery.Table

/-!
The cache of results. An entry holds the column of one measure in one scope together with the
grouping columns of the scope, so that columns of different requests can be merged by point. A full
cache evicts the entry that was stored first before it stores another.
-/

namespace CubeQuery

structure CacheKey where
  scope : ScopeKey
  measure : String
deriving DecidableEq

def CacheKey.of (scope : ScopeKey) (measure : Measure) : CacheKey := ⟨scope, measure.key⟩

structure CacheEntry where
  key : CacheKey
  table : Table

/-- Counters of a cache; all are `-1` where nothing is cached. -/
structure CacheStats where
  hits : Int
  misses : Int
  size : Int
deriving DecidableEq

namespace CacheStats

def disabled : CacheStats := ⟨-1, -1, -1⟩

def text (stats : CacheStats) : String :=
  "hits=" ++ toString stats.hits ++ " misses=" ++ toString stats.misses ++ " size=" ++ toString stats.size

end CacheStats

structure MemoryCache where
  capacity : Nat
  /-- In the order of storing, the oldest first. -/
  entries : List CacheEntry
  hits : Nat
  misses : Nat
  locks : ScopeLocks

namespace MemoryCache

/-- A cache holds one entry at least. -/
def ofCapacity (capacity : Nat) : MemoryCache := ⟨max capacity 1, [], 0, 0, .none⟩

def find? (cache : MemoryCache) (key : CacheKey) : Option CacheEntry :=
  cache.entries.find? (·.key = key)

def contains (cache : MemoryCache) (scope : ScopeKey) (measure : Measure) : Bool :=
  (cache.find? (.of scope measure)).isSome

/-- The oldest entries go until one more fits. -/
def evict (cache : MemoryCache) : MemoryCache :=
  { cache with entries := cache.entries.drop (cache.entries.length + 1 - cache.capacity) }

/-- Stores an entry as the newest, in place of one with its key. -/
def insert (cache : MemoryCache) (entry : CacheEntry) : MemoryCache :=
  let room := cache.evict
  { room with
    entries := room.entries.filter (·.key ≠ entry.key) ++ [entry]
    misses := room.misses + 1 }

/-- The grouping columns of a scope, read from any of its entries. -/
def rawResult (cache : MemoryCache) (scope : ScopeKey) : Except CacheError Table :=
  match cache.entries.find? (·.key.scope = scope) with
  | none => .error (.notCached "*" scope)
  | some entry => (entry.table.project entry.table.groupingNames).mapError .table

/-- Stores the columns of measures in turn, up to the first that the result lacks. -/
def store (cache : MemoryCache) (scope : ScopeKey) (result : Table) :
    List Measure → MemoryCache × Except CacheError Unit
  | [] => (cache, .ok ())
  | measure :: rest =>
    match result.project (result.groupingNames ++ [measure.label]) with
    | .error error => (cache, .error (.table error))
    | .ok table => (cache.insert ⟨.of scope measure, table⟩).store scope result rest

/-- The cached column of a measure for the points of a result. A point that is not cached has a
null. -/
def alignedColumn (cached result : Table) (label : String) : Except TableError Column := do
  let points ← result.columnsNamed cached.groupingNames
  let source ← cached.column label
  return ⟨.measure source.name source.header.type,
    result.rowIndices.map fun row =>
      match cached.lastRowAt? cached.groupingColumns (Table.cells points row) with
      | some cachedRow => source.cell cachedRow
      | none => .null⟩

/-- The result with the cached column of a measure behind the others. -/
def mergeOne (cache : MemoryCache) (scope : ScopeKey) (result : Table) (measure : Measure) :
    Except CacheError Table :=
  match cache.find? (.of scope measure) with
  | none => .error (.notCached measure.label scope)
  | some entry =>
    (do result.addColumn (← alignedColumn entry.table result measure.label)).mapError .table

/-- Merges the columns of measures in turn, up to the first that cannot be. -/
def merge (cache : MemoryCache) (scope : ScopeKey) (result : Table) :
    List Measure → MemoryCache × Table × Except CacheError Unit
  | [] => (cache, result, .ok ())
  | measure :: rest =>
    match cache.mergeOne scope result measure with
    | .error error => (cache, result, .error error)
    | .ok extended => { cache with hits := cache.hits + 1 }.merge scope extended rest

def clear (cache : MemoryCache) : MemoryCache :=
  { cache with entries := [], hits := 0, misses := 0, locks := cache.locks.releaseAll }

def stats (cache : MemoryCache) : CacheStats :=
  ⟨cache.hits, cache.misses, cache.entries.length⟩

end MemoryCache

/-- A cache that may be switched off: then nothing is found and nothing is kept. -/
inductive QueryCache where
  | disabled
  | memory (cache : MemoryCache)

namespace QueryCache

def ofCapacity? : Option Nat → QueryCache
  | none => .disabled
  | some capacity => .memory (.ofCapacity capacity)

def isDisabled : QueryCache → Bool
  | .disabled => true
  | .memory _ => false

def contains (cache : QueryCache) (scope : ScopeKey) (measure : Measure) : Bool :=
  match cache with
  | .disabled => false
  | .memory cache => cache.contains scope measure

def rawResult (cache : QueryCache) (scope : ScopeKey) : Except CacheError Table :=
  match cache with
  | .disabled => .error .disabled
  | .memory cache => cache.rawResult scope

def store (cache : QueryCache) (scope : ScopeKey) (result : Table) (measures : List Measure) :
    QueryCache × Except CacheError Unit :=
  match cache with
  | .disabled => (.disabled, .ok ())
  | .memory cache =>
    let (stored, outcome) := cache.store scope result measures
    (.memory stored, outcome)

def merge (cache : QueryCache) (scope : ScopeKey) (result : Table) (measures : List Measure) :
    QueryCache × Table × Except CacheError Unit :=
  match cache with
  | .disabled => (.disabled, result, if measures.isEmpty then .ok () else .error .disabled)
  | .memory cache =>
    let (read, merged, outcome) := cache.merge scope result measures
    (.memory read, merged, outcome)

def clear : QueryCache → QueryCache
  | .disabled => .disabled
  | .memory cache => .memory cache.clear

/-- Changes the locks, if there are any. -/
def mapLocks (cache : QueryCache) (change : ScopeLocks → ScopeLocks) : QueryCache :=
  match cache with
  | .disabled => .disabled
  | .memory cache => .memory { cache with locks := change cache.locks }

def stats : QueryCache → CacheStats
  | .disabled => .disabled
  | .memory cache => cache.stats

end QueryCache

end CubeQuery
