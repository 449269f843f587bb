import CubeQuery.Command

/-!
Reading a command from its arguments. They are read one after another, and the first that asks for
help or that is wrong decides.
-/

namespace CubeQuery

inductive Topic where
  | program
  | compile
  | plan
  | help

/-- What the arguments ask for. -/
inductive Invocation where
  | run (command : Command)
  | help (topic : Topic)
  | version

namespace Invocation

inductive Verb where
  | compile
  | plan

def Verb.topic : Verb → Topic
  | .compile => .compile
  | .plan => .plan

/-- The options that take a value. -/
inductive ValueOption where
  | schema
  | dialect
  | config

namespace ValueOption

def ofName? : Verb → String → Option ValueOption
  | .compile, "schema" => some .schema
  | .compile, "dialect" => some .dialect
  | .compile, "config" => some .config
  | _, _ => none

def ofLetter? : Verb → Char → Option ValueOption
  | .compile, 's' => some .schema
  | .compile, 'd' => some .dialect
  | .compile, 'c' => some .config
  | _, _ => none

end ValueOption

/-- What has been read of a command. -/
structure Draft where
  query : Option String
  schema : Option String
  dialect : Option Dialect
  config : Option String

namespace Draft

def empty : Draft := ⟨none, none, none, none⟩

/-- Fills a place, which has to be free, with a value that is not empty. -/
def fill (place : Option String) (value : String) : Option (Option String) :=
  if place.isSome || value.isEmpty then none else some (some value)

def withQuery (draft : Draft) (value : String) : Option Draft :=
  (fill draft.query value).map fun query => { draft with query }

def withOption (draft : Draft) (name : ValueOption) (value : String) : Option Draft :=
  match name with
  | .schema => (fill draft.schema value).map fun schema => { draft with schema }
  | .config => (fill draft.config value).map fun config => { draft with config }
  | .dialect =>
    if draft.dialect.isSome then none
    else (Dialect.all.find? (·.name == value)).map fun dialect => { draft with dialect := some dialect }

def command? (verb : Verb) (draft : Draft) : Option Command :=
  match verb with
  | .compile => do return .compile (← draft.query) (← draft.schema) draft.dialect draft.config
  | .plan => do return .plan (← draft.query)

end Draft

/-- One argument by itself. -/
inductive Argument where
  | value (text : String)
  /-- From here on all arguments are values. -/
  | onlyValues
  | help
  | option (name : ValueOption) (value : Option String)
  | unknown

/-- A letter may be followed by its value, with or without a sign between them. -/
def attachedValue : List Char → Option String
  | [] => none
  | '=' :: value => some (String.ofList value)
  | value => some (String.ofList value)

def Argument.ofChars (verb : Verb) : List Char → Argument
  | ['-', '-'] => .onlyValues
  | '-' :: '-' :: rest =>
    let name := String.ofList (rest.takeWhile (· != '='))
    let value := (rest.dropWhile (· != '=')).tail?.map String.ofList
    if name = "help" && value.isNone then .help
    else match ValueOption.ofName? verb name with
      | some named => .option named value
      | none => .unknown
  | '-' :: letter :: rest =>
    if letter = 'h' then .help
    else match ValueOption.ofLetter? verb letter with
      | some named => .option named (attachedValue rest)
      | none => .unknown
  | chars => .value (String.ofList chars)

/-- Reads the arguments of a verb. An option waits for its value. -/
def ofArguments (verb : Verb) (waiting : Option ValueOption) (onlyValues : Bool) (draft : Draft) :
    List String → Option Invocation
  | [] => if waiting.isSome then none else (draft.command? verb).map .run
  | argument :: rest =>
    match waiting, if onlyValues then .value argument else Argument.ofChars verb argument.toList with
    | some named, .value text => do
      ofArguments verb none onlyValues (← draft.withOption named text) rest
    | some _, _ => none
    | none, .value text => do ofArguments verb none onlyValues (← draft.withQuery text) rest
    | none, .onlyValues => ofArguments verb none true draft rest
    | none, .help => some (.help verb.topic)
    | none, .option named none => ofArguments verb (some named) onlyValues draft rest
    | none, .option named (some text) => do
      ofArguments verb none onlyValues (← draft.withOption named text) rest
    | none, .unknown => none

def helpTopic? : List String → Option Topic
  | [] => some .program
  | ["compile"] => some .compile
  | ["plan"] => some .plan
  | ["help"] => some .help
  | _ => none

def ofFlag? : List Char → Option Invocation
  | '-' :: 'h' :: _ => some (.help .program)
  | '-' :: 'V' :: _ => some .version
  | _ => none

/-- What the arguments of the program ask for, if they ask for anything. -/
def read? : List String → Option Invocation
  | [] => none
  | "compile" :: rest => ofArguments .compile none false .empty rest
  | "plan" :: rest => ofArguments .plan none false .empty rest
  | "help" :: rest => (helpTopic? rest).map .help
  | "--help" :: _ => some (.help .program)
  | "--version" :: _ => some .version
  | argument :: _ => ofFlag? argument.toList

end Invocation

end CubeQuery
