import CubeQuery.Engine
import CubeQuery.Settings
import CubeQuery.Wire.Query

/-!
The commands: to print the statements that a query takes, and to print its plan. A command looks at
files and at variables of its surroundings, which may be the world or a table of them.
-/

namespace CubeQuery

inductive Command where
  | compile (query schema : String) (dialect : Option Dialect) (config : Option String)
  | plan (query : String)

inductive FileContent where
  | missing
  | unreadable (reason : String)
  | text (text : String)

structure Surroundings (m : Type → Type) where
  valueOf : String → m (Option String)
  file : String → m FileContent

inductive CommandError where
  | unreadable (path : String)
  | undecodable (what path : String)
  | settings (error : SettingsError)
  | compilation (error : QueryError)
  | planning (error : QueryError)
deriving DecidableEq

def CommandError.message : CommandError → String
  | .unreadable path => "Error reading file '" ++ path ++ "'"
  | .undecodable what path => "Invalid " ++ what ++ " in '" ++ path ++ "'"
  | .settings error => "Configuration error: " ++ error.message
  | .compilation error => "Compilation error: " ++ error.message
  | .planning error => "Planning error: " ++ error.message

namespace Command

/-- The variable that names the file of settings. -/
def configVariable : String := "SQLCUBE_CONFIG"

/-- The file of settings that is used if it is there. -/
def configFile : String := "sqlcube.toml"

variable {m : Type → Type} [Monad m] (surroundings : Surroundings m)

/-- The values of variables. -/
def lookUp : List String → m (List (String × Option String))
  | [] => pure []
  | name :: names => do
    let value ← surroundings.valueOf name
    return (name, value) :: (← lookUp names)

def dialectOfText (text : String) : ExceptT CommandError m Dialect := do
  match Settings.ofText? text with
  | none => throw (.settings .unparsable)
  | some settings =>
    let values ← (lookUp surroundings settings.variableNames : m _)
    match settings.check fun name => (values.lookup name).join with
    | .ok dialect => return dialect
    | .error error => throw (.settings error)

def dialectOfFile (path : String) : ExceptT CommandError m Dialect := do
  match ← surroundings.file path with
  | .missing => throw (.settings (.fileNotFound path))
  | .unreadable reason => throw (.settings (.unreadable reason))
  | .text text => dialectOfText surroundings text

/-- The dialect of the settings: of the file that is given, else of the file that a variable names,
else of the file that is there, else of the standard ones. -/
def configuredDialect (config : Option String) : ExceptT CommandError m Dialect := do
  match config with
  | some path => dialectOfFile surroundings path
  | none =>
    match ← surroundings.valueOf configVariable with
    | some path => dialectOfFile surroundings path
    | none =>
      match ← surroundings.file configFile with
      | .missing => return .duckdb
      | _ => dialectOfFile surroundings configFile

def readJson {α : Type} (what path : String) (read : Json → Option α) : ExceptT CommandError m α := do
  match ← surroundings.file path with
  | .text text =>
    match (Json.read? text).bind read with
    | some value => return value
    | none => throw (.undecodable what path)
  | _ => throw (.unreadable path)

def listing (number : Nat) : List String → String
  | [] => ""
  | statement :: rest =>
    "-- scope #" ++ toString number ++ "\n" ++ statement ++ ";\n" ++ listing (number + 1) rest

/-- What a command prints. -/
def run : Command → ExceptT CommandError m String
  | .compile query schema dialect config => do
    let configured ← configuredDialect surroundings config
    let query ← readJson surroundings "query" query Query.ofJson?
    let datastore ← readJson surroundings "schema" schema Datastore.ofJson?
    match (Engine.ofRows (dialect.getD configured) datastore []).statements query with
    | .ok statements => return listing 0 statements
    | .error error => throw (.compilation error)
  | .plan query => do
    let query ← readJson surroundings "query" query Query.ofJson?
    match Plan.build query with
    | .ok planned => return planned.text
    | .error error => throw (.planning error)

end Command

end CubeQuery
