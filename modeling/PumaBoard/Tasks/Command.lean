import PumaBoard.CommandLine.Arguments

/-!
The commands of the task runner and the arguments that they take.
-/

namespace PumaBoard.Tasks

open CommandLine (Arguments Stop Switch Usage)

/-- Which tests are run. -/
structure TestChoice where
  /-- The examples of the documentation. -/
  doc : Bool := false
  /-- The tests that are usually left out. -/
  ignored : Bool := false
  coprocessor : Bool := false
  host : Bool := false
  memory : Bool := false
deriving DecidableEq, Repr

/-- A trace to run. -/
structure TraceChoice where
  script : String
  config : Option String := none
  json : Bool := false
  release : Bool := false
deriving DecidableEq, Repr

/-- A command of the task runner. -/
inductive TaskCommand where
  | ci (verbose : Bool)
  | check (verbose : Bool)
  | format (check : Bool)
  | lint (fix : Bool)
  | build (release : Bool)
  | test (choice : TestChoice)
  | bench
  | trace (choice : TraceChoice)
  | preCommit
  | installHooks
deriving DecidableEq, Repr

namespace TaskCommand

/-- A command by its name: what it takes, and what its arguments mean. -/
structure Form where
  name : String
  usage : Usage
  command : Arguments → TaskCommand

/-- A command with flags and nothing else. -/
def Form.ofFlags (name : String) (flags : List String) (command : Arguments → TaskCommand) : Form :=
  { name := name, usage := { switches := flags.map .flag }, command := command }

/-- The tests that the flags choose. -/
def testChoice (a : Arguments) : TestChoice where
  doc := a.has "doc"
  ignored := a.has "ignored"
  coprocessor := a.has "rush"
  host := a.has "at3d"
  memory := a.has "memory"

/-- The trace in the arguments. -/
def traceChoice (a : Arguments) : TraceChoice where
  script := a.operand 0
  config := a.get? "config"
  json := a.has "json"
  release := a.has "release"

/-- The commands. -/
def forms : List Form := [
  .ofFlags "ci" ["verbose"] fun a => ci (a.has "verbose"),
  .ofFlags "check" ["verbose"] fun a => check (a.has "verbose"),
  .ofFlags "fmt" ["check"] fun a => format (a.has "check"),
  .ofFlags "clippy" ["fix"] fun a => lint (a.has "fix"),
  .ofFlags "build" ["release"] fun a => build (a.has "release"),
  .ofFlags "test" ["doc", "ignored", "rush", "at3d", "memory"] fun a => test (testChoice a),
  .ofFlags "bench" [] fun _ => bench,
  { name := "trace"
    usage :=
      { switches := [.value "config" 'c', .flag "json", .flag "release"], operands := 1 }
    command := fun a => trace (traceChoice a) },
  .ofFlags "pre-commit" [] fun _ => preCommit,
  .ofFlags "install-hooks" [] fun _ => installHooks]

/-- The form of a command name. -/
def form? (name : String) : Option Form := forms.find? (·.name = name)

/-- Reads the arguments of the help command: nothing, or the name of a command. -/
def readHelp : List String → Stop
  | [] => .help
  | [name] => if name = "help" ∨ (form? name).isSome then .help else .misuse
  | _ => .misuse

/-- Reads an argument in the place of a command name. -/
def readOption (text : String) : Stop :=
  match CommandLine.Shape.of text with
  | .named "help" none => .help
  | .lettered 'h' _ => .help
  | _ => .misuse

/-- The command in the arguments. -/
def ofArguments : List String → Except Stop TaskCommand
  | [] => .error .misuse
  | name :: args =>
    if name = "help" then .error (readHelp args)
    else
      match form? name with
      | none => .error (readOption name)
      | some form => (form.usage.read args).map form.command

end TaskCommand

end PumaBoard.Tasks
