import CubeQuery.Cache
import CubeQuery.Settings.Expansion
import CubeQuery.Sql.Dialect
import CubeQuery.Toml.Reader

/-!
Settings: the dialect that statements are written in, how many of them run at the same time, and how
much is cached. The name of the dialect may hold variables.
-/

namespace CubeQuery

structure Settings where
  dialectText : String
  maxConcurrentScopes : Nat
  cacheEnabled : Bool
  maxEntries : Nat

namespace Settings

def standard : Settings := ⟨Dialect.duckdb.name, 8, true, 10000⟩

/-- A section may be left out, and then all that is in it. -/
def section? (toml : Toml) (place : Nat) (name : String) : Option Toml :=
  toml.withDefault place name (.table []) fun part => if part.isRecord then some part else none

def sectionNames : List String := ["sql", "executor", "cache"]

/-- Whether all that is not a section can be read. -/
def othersReadable : Toml → Bool
  | .table members => members.all fun (name, value) => sectionNames.contains name || value.isReadable
  | _ => true

def ofToml? (toml : Toml) : Option Settings := do
  if !othersReadable toml then none
  let sql ← section? toml 0 "sql"
  let executor ← section? toml 1 "executor"
  let cache ← section? toml 2 "cache"
  return ⟨← sql.withDefault 0 "dialect" standard.dialectText Toml.readString,
    ← executor.withDefault 0 "max_concurrent_scopes" standard.maxConcurrentScopes Toml.readCount,
    ← cache.withDefault 0 "enabled" standard.cacheEnabled Toml.readBool,
    ← cache.withDefault 1 "max_entries" standard.maxEntries Toml.readCount⟩

def ofText? (text : String) : Option Settings := (Toml.read? text).bind ofToml?

variable (settings : Settings)

def dialect (valueOf : String → Option String) : Except SettingsError Dialect := do
  let name ← Expansion.expand valueOf settings.dialectText
  (Dialect.named name).mapError fun _ => .unsupportedDialect name

/-- The variables that the settings depend on. -/
def variableNames : List String := Expansion.names settings.dialectText

/-- The dialect of settings that can be used, else the first thing that is wrong with them. -/
def check (valueOf : String → Option String) : Except SettingsError Dialect := do
  let dialect ← settings.dialect valueOf
  if settings.maxConcurrentScopes = 0 then throw .noConcurrency
  if settings.cacheEnabled && settings.maxEntries == 0 then throw .noCacheEntries
  return dialect

def cache : QueryCache :=
  .ofCapacity? (if settings.cacheEnabled then some settings.maxEntries else none)

end Settings

end CubeQuery
