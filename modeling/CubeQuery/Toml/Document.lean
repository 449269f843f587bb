import CubeQuery.Toml

/-!
Documents under construction. A document is a sequence of lines; each opens a table or gives a value
a name in the table that is open. A table is opened at most once. A dotted name may lead through any
table that was not opened and through the last table of an array, but it adds only to tables that
dotted names have made.
-/

namespace CubeQuery.Toml

inductive Line where
  /-- `[path]` -/
  | table (path : List String)
  /-- `[[path]]` -/
  | element (path : List String)
  /-- `path = value` -/
  | entry (path : List String) (value : Toml)

/-- How a table came about. -/
inductive Origin where
  | opened
  /-- It was on the way to a table that was opened. -/
  | passed
  | dotted
deriving DecidableEq

/-- A part of a document. The tables of an array come last one first. -/
inductive Node where
  | value (toml : Toml)
  | table (origin : Origin) (members : List (String × Node))
  | tables (elements : List (List (String × Node)))

abbrev Members := List (String × Node)

def Members.put (members : Members) (name : String) (node : Node) : Members :=
  members.map fun member => if member.1 = name then (name, node) else member

/-- Changes the members at the end of a path of tables. -/
def Members.enter (change : Members → Option Members) : List String → Members → Option Members
  | [], members => change members
  | name :: path, members =>
    match members.lookup name with
    | none => do return members ++ [(name, .table .passed (← Members.enter change path []))]
    | some (.table origin inner) => do
      return members.put name (.table origin (← Members.enter change path inner))
    | some (.tables (last :: earlier)) => do
      return members.put name (.tables ((← Members.enter change path last) :: earlier))
    | _ => none

/-- Gives a value a name that may be dotted. The flag says whether the members may be added to. -/
def Members.add (value : Toml) (mayAdd : Bool) : List String → Members → Option Members
  | [], _ => none
  | [name], members =>
    if mayAdd && (members.lookup name).isNone then some (members ++ [(name, .value value)]) else none
  | name :: path, members =>
    match members.lookup name with
    | none => do return members ++ [(name, .table .dotted (← Members.add value true path []))]
    | some (.table .dotted inner) => do
      return members.put name (.table .dotted (← Members.add value true path inner))
    | some (.table .passed inner) => do
      return members.put name (.table .passed (← Members.add value false path inner))
    | some (.tables (last :: earlier)) => do
      return members.put name (.tables ((← Members.add value false path last) :: earlier))
    | _ => none

def Members.openTable (name : String) (members : Members) : Option Members :=
  match members.lookup name with
  | none => some (members ++ [(name, .table .opened [])])
  | some (.table .passed inner) => some (members.put name (.table .opened inner))
  | _ => none

def Members.openElement (name : String) (members : Members) : Option Members :=
  match members.lookup name with
  | none => some (members ++ [(name, .tables [[]])])
  | some (.tables elements) => some (members.put name (.tables ([] :: elements)))
  | _ => none

mutual

def Node.toToml : Node → Toml
  | .value toml => toml
  | .table _ members => .table (membersToToml members)
  | .tables elements => .array (elementsToToml elements).reverse

def membersToToml : List (String × Node) → List (String × Toml)
  | [] => []
  | (name, node) :: rest => (name, node.toToml) :: membersToToml rest

def elementsToToml : List (List (String × Node)) → List Toml
  | [] => []
  | members :: rest => .table (membersToToml members) :: elementsToToml rest

end

structure Document where
  root : Members
  /-- The path of the table that is open. -/
  path : List String

def Document.empty : Document := ⟨[], []⟩

def Document.add (document : Document) (line : Line) : Option Document :=
  match line with
  | .table path =>
    match path.getLast? with
    | some name =>
      (Members.enter (·.openTable name) path.dropLast document.root).map fun root => ⟨root, path⟩
    | none => none
  | .element path =>
    match path.getLast? with
    | some name =>
      (Members.enter (·.openElement name) path.dropLast document.root).map fun root => ⟨root, path⟩
    | none => none
  | .entry path value =>
    (Members.enter (Members.add value true path) document.path document.root).map fun root =>
      { document with root }

def Document.toToml (document : Document) : Toml := .table (membersToToml document.root)

/-- The table that is written in one place with the given entries. -/
def ofEntries? (entries : List (List String × Toml)) : Option Toml :=
  (entries.foldlM (fun members (path, value) => Members.add value true path members) []).map fun members =>
    .table (membersToToml members)

end CubeQuery.Toml
