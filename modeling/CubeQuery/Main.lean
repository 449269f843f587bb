import CubeQuery.Command.Outcome

/-!
The program on the command line.
-/

open CubeQuery

def readFile (path : String) : IO FileContent := do
  try
    return .text (← IO.FS.readFile path)
  catch
    | .noFileOrDirectory .. => return .missing
    | error => return .unreadable (toString error)

def main (arguments : List String) : IO UInt32 := do
  let outcome ← Outcome.ofArguments ⟨fun name => IO.getEnv name, readFile⟩ arguments
  IO.print outcome.output
  match outcome with
  | .success _ => pure ()
  | .failure error => IO.eprintln error.message
  | .misuse => IO.eprint Topic.program.text
  return outcome.exitCode.toUInt32
