import PumaBoard.Tasks.Basic
import PumaBoard.Tasks.Command

/-!
The tasks behind the commands: the runs of the build tool, in which order they happen, and what is
printed about them.
-/

namespace PumaBoard.Tasks

open Work (print printLine fail look attempt)

/-! ### Single runs -/

/-- Formats the source, or checks that it is formatted. -/
def format (check : Bool) : Work Unit :=
  Work.build (["fmt", "--all"] ++ if check then ["--", "--check"] else [])

/-- Runs the linter, to which every warning is an error unless it mends them. -/
def lint (fix : Bool) : Work Unit :=
  Work.build (["clippy", "--all-targets", "--all-features"] ++
    if fix then ["--fix"] else ["--", "-D", "warnings"])

/-- Builds the program. -/
def build (release : Bool) : Work Unit :=
  Work.build ("build" :: if release then ["--release"] else [])

/-- Runs the benchmarks. -/
def bench : Work Unit := Work.build ["bench"]

/-! ### Tests -/

/-- A group of tests. -/
structure TestGroup where
  /-- The path that selects the tests. -/
  path : String
  title : String
deriving DecidableEq, Repr

/-- The groups that are chosen, in their fixed order. -/
def TestChoice.groups (c : TestChoice) : List TestGroup :=
  (if c.coprocessor then [⟨"core::rush", "Voodoo Rush"⟩] else []) ++
    (if c.host then [⟨"core::at3d", "AT3D"⟩] else []) ++
    (if c.memory then [⟨"core::memory", "Memory"⟩] else [])

/-- The arguments of a test run: what is selected, and whether the tests usually left out are. -/
def testArguments (c : TestChoice) (selection : List String) : List String :=
  ["test", "--all-features"] ++ selection ++ if c.ignored then ["--", "--ignored"] else []

/-- Runs a group of tests and tells whether they passed. A group that is the only one passes its
failure on. -/
def testGroup (c : TestChoice) (only : Bool) (g : TestGroup) : Work Bool := do
  printLine ("→ Running " ++ g.title ++ " tests...")
  match ← attempt (Work.build (testArguments c ["--lib", g.path])) with
  | .ok () => do
    printLine ("✓ " ++ g.title ++ " tests passed\n")
    return true
  | .error f => do
    printLine ("✗ " ++ g.title ++ " tests failed\n")
    if only then fail f else return false

/-- Runs groups of tests one after another and tells whether all passed. -/
def testGroups (c : TestChoice) (only : Bool) : List TestGroup → Work Bool
  | [] => pure true
  | g :: gs => do
    let passed ← testGroup c only g
    let rest ← testGroups c only gs
    return passed && rest

/-- Runs the chosen tests. The documentation has no groups. -/
def test (c : TestChoice) : Work Unit :=
  if c.doc then Work.build (testArguments c ["--doc"])
  else
    match c.groups with
    | [] => Work.build (testArguments c [])
    | gs => do
      if ← testGroups c (gs.length = 1) gs then pure () else fail .tests

/-! ### Sequences -/

/-- A step of a sequence, printed by its name. -/
structure Step where
  name : String
  task : Work Unit

/-- The steps that sequences are made of. -/
def Step.formatCheck : Step := ⟨"Format Check", format true⟩
def Step.linting : Step := ⟨"Clippy", lint false⟩
def Step.building : Step := ⟨"Build", build false⟩
def Step.testing : Step := ⟨"Test", test {}⟩

/-- Does a step and prints how it went, if `verbose` with the time that it took. -/
def Step.run (verbose : Bool) (s : Step) : Work Unit := do
  print [.text ("→ " ++ s.name ++ " ... ")]
  match ← attempt s.task with
  | .ok () =>
    print (if verbose then [.text "✓ (", .elapsed, .text ")\n"] else [.text "✓ \n"])
  | .error f => do
    printLine "✗"
    fail f

/-- Does steps until one fails. -/
def runSteps (verbose : Bool) : List Step → Work Unit
  | [] => Work.done
  | s :: steps => do
    s.run verbose
    runSteps verbose steps

/-- Does the steps of a sequence between its title and its closing line. -/
def sequence (title closing : String) (verbose : Bool) (steps : List Step) : Work Unit := do
  printLine ("=== " ++ title ++ " ===")
  runSteps verbose steps
  print [.text ("\n✓ " ++ closing ++ " in "), .elapsed, .text "\n"]

/-! ### Traces -/

/-- The arguments of a trace run. -/
def TraceChoice.arguments (c : TraceChoice) : List String :=
  ["run", "--bin", "at3d-rush"] ++ (if c.release then ["--release"] else []) ++
    ["--", c.script] ++
    (match c.config with
      | some config => ["--config", config]
      | none => []) ++
    if c.json then ["--json"] else []

/-- Checks that a file exists. -/
def requireFile (path kind : String) (f : Failure) : Work Unit := do
  if ← look (·.tree.reaches path) then pure ()
  else
    printLine ("✗ " ++ kind ++ " not found: " ++ path)
    fail f

/-- Checks that the files of a trace exist. -/
def requireFiles (c : TraceChoice) : Work Unit := do
  requireFile c.script "Trace script" .scriptMissing
  match c.config with
  | some config => requireFile config "Config file" .configMissing
  | none => pure ()

/-- Runs a trace. -/
def trace (c : TraceChoice) : Work Unit := do
  printLine "=== Trace Run ==="
  requireFiles c
  printLine ("✓ Script: " ++ c.script)
  printLine ("→ Build mode: " ++ (if c.release then "release" else "debug") ++ "\n")
  let status ← Work.runTool c.arguments
  if status = 0 then print [.text "\n✓ Trace completed in ", .elapsed, .text "\n"]
  else
    printLine "\n✗ Trace run failed"
    fail (.trace status)

/-! ### The commit hook -/

/-- The directory of the hook. -/
def hookDirectory : List String := [".git", "hooks"]

/-- The name of the hook. -/
def hookName : String := "pre-commit"

/-- The script of the hook. -/
def hookScript : String :=
  "#!/bin/sh\n# Auto-generated by cargo x install-hooks\nset -e\n\n" ++
    "echo \"Running pre-commit checks...\"\ncargo x pre-commit\n"

/-- Why a file cannot be written into a directory, if it cannot. -/
def writeFault? (t : Tree) (directory : List String) (name : String) : Option SystemFault :=
  if (List.range (directory.length + 1)).any fun n => t.entry? (directory.take n) = some Entry.file
  then some .notDirectory
  else if t.entry? directory ≠ some .directory then some .missing
  else if t.entry? (directory ++ [name]) = some .directory then some .isDirectory
  else none

/-- Writes the hook. -/
def writeHook : Work Unit := fun w =>
  match writeFault? w.tree hookDirectory hookName with
  | some fault => (.error (.system fault), w)
  | none => (.ok (), { w with hook := some ⟨hookScript, true⟩ })

/-- Installs the commit hook. -/
def installHooks : Work Unit := do
  printLine "Installing git hooks..."
  writeHook
  printLine "✓ Git hooks installed"
  printLine "  Pre-commit hook will run: fmt, clippy, test"

/-! ### Commands -/

/-- The task of a command. -/
def TaskCommand.task : TaskCommand → Work Unit
  | ci verbose =>
    sequence "Running CI Pipeline" "CI passed" verbose
      [.formatCheck, .linting, .building, .testing]
  | check verbose =>
    sequence "Running Quick Checks" "Checks passed" verbose [.formatCheck, .linting]
  | format onlyCheck => Tasks.format onlyCheck
  | lint fix => Tasks.lint fix
  | build release => Tasks.build release
  | test choice => Tasks.test choice
  | bench => Tasks.bench
  | trace choice => Tasks.trace choice
  | preCommit =>
    sequence "Pre-commit Checks" "Pre-commit checks passed" false
      [.formatCheck, .linting, .testing]
  | installHooks => Tasks.installHooks

/-- What a run of the task runner comes to. -/
structure Outcome where
  exit : Nat
  workshop : Workshop
  /-- Why the task failed. -/
  failure : Option Failure := none

/-- Runs the command in the arguments. A failed task exits with 1, misuse with 2. -/
def run (args : List String) (w : Workshop) : Outcome :=
  match TaskCommand.ofArguments args with
  | .error .help => { exit := 0, workshop := w }
  | .error .misuse => { exit := 2, workshop := w }
  | .ok command =>
    match command.task w with
    | (.ok (), w) => { exit := 0, workshop := w }
    | (.error f, w) => { exit := 1, workshop := w, failure := some f }

end PumaBoard.Tasks
