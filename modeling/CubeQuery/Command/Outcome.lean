import CubeQuery.Command.Arguments

/-!
The program as a whole: what it prints and the number it ends with.
-/

namespace CubeQuery

def programName : String := "sqlcube"

def programVersion : String := "0.1.0"

def Topic.lines : Topic → List String
  | .program =>
    ["sqlcube - Compile analytical queries to multi-dialect SQL",
     "",
     "Usage: sqlcube <COMMAND>",
     "",
     "Commands:",
     "  compile  Print the SQL of every scope a query needs, root scope first",
     "  plan     Print the measure dependency graph of a query",
     "  help     Print this message or the help of the given subcommand(s)",
     "",
     "Options:",
     "  -h, --help     Print help",
     "  -V, --version  Print version"]
  | .compile =>
    ["Print the SQL of every scope a query needs, root scope first",
     "",
     "Usage: sqlcube compile [OPTIONS] --schema <SCHEMA> <FILE>",
     "",
     "Arguments:",
     "  <FILE>  Path to the query JSON file",
     "",
     "Options:",
     "  -s, --schema <SCHEMA>    Path to the datastore schema JSON file",
     "  -d, --dialect <DIALECT>  SQL dialect to generate (overrides the config file) [possible values: "
       ++ commaSeparated (Dialect.all.map Dialect.name) ++ "]",
     "  -c, --config <CONFIG>    Path to a sqlcube.toml file",
     "  -h, --help               Print help"]
  | .plan =>
    ["Print the measure dependency graph of a query",
     "",
     "Usage: sqlcube plan <FILE>",
     "",
     "Arguments:",
     "  <FILE>  Path to the query JSON file",
     "",
     "Options:",
     "  -h, --help  Print help"]
  | .help =>
    ["Print this message or the help of the given subcommand(s)",
     "",
     "Usage: sqlcube help [COMMAND]...",
     "",
     "Arguments:",
     "  [COMMAND]...  Print help for the subcommand(s)"]

def Topic.text (topic : Topic) : String := String.join (topic.lines.map (· ++ "\n"))

/-- How the program ends. -/
inductive Outcome where
  | success (output : String)
  | failure (error : CommandError)
  | misuse

namespace Outcome

def exitCode : Outcome → Nat
  | .success _ => 0
  | .failure _ => 1
  | .misuse => 2

def output : Outcome → String
  | .success output => output
  | _ => ""

def error? : Outcome → Option CommandError
  | .failure error => some error
  | _ => none

def ofResult : Except CommandError String → Outcome
  | .ok output => .success output
  | .error error => .failure error

/-- Runs the program with the given arguments. -/
def ofArguments {m : Type → Type} [Monad m] (surroundings : Surroundings m) (arguments : List String) :
    m Outcome :=
  match Invocation.read? arguments with
  | none => pure .misuse
  | some .version => pure (.success (programName ++ " " ++ programVersion ++ "\n"))
  | some (.help topic) => pure (.success topic.text)
  | some (.run command) => ofResult <$> (command.run surroundings).run

end Outcome

end CubeQuery
