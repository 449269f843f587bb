import CubeQuery.Command

/-!
A directory as a table of its files. The name of a file may lead through directories of its own. A
path is followed step by step, and every step starts in a directory; what lies outside of the
directory is not there.
-/

namespace CubeQuery

structure Directory where
  files : List (String × String)

namespace Directory

variable (directory : Directory)

def steps (path : String) : List String := path.splitOn "/"

def isDirectory (place : List String) : Bool :=
  place.isEmpty ||
    directory.files.any fun (name, _) => place.isPrefixOf (steps name) && place != steps name

/-- The place that steps lead to. An empty step and a single dot stay, and two dots go back. -/
def follow? (place : List String) : List String → Option (List String)
  | [] => some place
  | step :: rest =>
    if !directory.isDirectory place then none
    else if step = "" ∨ step = "." then follow? place rest
    else if step = ".." then if place.isEmpty then none else follow? place.dropLast rest
    else follow? (place ++ [step]) rest

def contentAt (place : List String) : FileContent :=
  match directory.files.find? fun (name, _) => steps name == place with
  | some (_, text) => .text text
  | none => if directory.isDirectory place then .unreadable "Is a directory (os error 21)" else .missing

/-- What a path that starts in the directory leads to. -/
def content (path : String) : FileContent :=
  if path.isEmpty || path.startsWith "/" then .missing
  else ((directory.follow? [] (steps path)).map directory.contentAt).getD .missing

end Directory

end CubeQuery
