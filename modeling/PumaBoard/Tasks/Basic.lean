import PumaBoard.Tasks.Tree

/-!
Tasks of the development of the board: what one works on, what it reports and why it fails. A task
runs the build tool, prints, and may write the commit hook.
-/

namespace PumaBoard.Tasks

/-! ### Failures -/

/-- Why a file cannot be written, or a program not be started. -/
inductive SystemFault where
  | missing
  | notDirectory
  | isDirectory
deriving DecidableEq, Repr

/-- The wording of a fault. -/
def SystemFault.message : SystemFault → String
  | missing => "No such file or directory (os error 2)"
  | notDirectory => "Not a directory (os error 20)"
  | isDirectory => "Is a directory (os error 21)"

/-- Why a task fails. -/
inductive Failure where
  | system (fault : SystemFault)
  /-- The build tool has failed. -/
  | tool (status : UInt8)
  /-- One of several groups of tests has failed. -/
  | tests
  | scriptMissing
  | configMissing
  /-- The trace run has failed. -/
  | trace (status : UInt8)
deriving DecidableEq, Repr

namespace Failure

/-- The wording of an exit status. -/
def statusText (status : UInt8) : String := "exit status: " ++ toString status.toNat

/-- The wording of a failure. -/
def message : Failure → String
  | system fault => fault.message
  | tool status => "Command failed with exit code: " ++ statusText status
  | tests => "Some module tests failed"
  | scriptMissing => "Trace script not found"
  | configMissing => "Config file not found"
  | trace status => "Trace run failed with exit code: " ++ statusText status

/-- What is printed as the error of a task. -/
def report (f : Failure) : String := "Error: " ++ f.message ++ "\n"

end Failure

/-! ### Work -/

/-- A piece of what a task prints. -/
inductive Piece where
  | text (s : String)
  /-- The time since some earlier moment, in seconds with two places. -/
  | elapsed
deriving DecidableEq, Repr

/-- A written commit hook. -/
structure Hook where
  contents : String
  executable : Bool
deriving DecidableEq, Repr

/-- What a task works on. -/
structure Workshop where
  tree : Tree := {}
  /-- The exit statuses of the coming runs of the build tool, zero when there are no more; without
  a list the tool is missing. -/
  tool : Option (List UInt8) := some []
  /-- The arguments of the runs so far, the first run first. -/
  runs : List (List String) := []
  /-- What has been printed. -/
  output : List Piece := []
  /-- The commit hook, once it has been written. -/
  hook : Option Hook := none
deriving DecidableEq, Repr

/-- A piece of work, which may fail. -/
abbrev Work (α : Type) := Workshop → Except Failure α × Workshop

namespace Work

/-- Does nothing. -/
def done : Work Unit := fun w => (.ok (), w)

/-- Fails. -/
def fail {α : Type} (f : Failure) : Work α := fun w => (.error f, w)

/-- One task after another, unless the first one fails. -/
def andThen {α β : Type} (t : Work α) (next : α → Work β) : Work β := fun w =>
  match t w with
  | (.ok x, w) => next x w
  | (.error f, w) => (.error f, w)

instance : Monad Work where
  pure x := fun w => (.ok x, w)
  bind := andThen

/-- Looks at the workshop. -/
def look {α : Type} (f : Workshop → α) : Work α := fun w => (.ok (f w), w)

/-- Prints. -/
def print (pieces : List Piece) : Work Unit := fun w =>
  (.ok (), { w with output := w.output ++ pieces })

/-- Prints a line. -/
def printLine (s : String) : Work Unit := print [.text (s ++ "\n")]

/-- Does the task and tells how it went, without failing. -/
def attempt {α : Type} (t : Work α) : Work (Except Failure α) := fun w =>
  let (answer, w) := t w
  (.ok answer, w)

/-- Runs the build tool and gives its exit status. -/
def runTool (args : List String) : Work UInt8 := fun w =>
  match w.tool with
  | none => (.error (.system .missing), w)
  | some statuses =>
    (.ok (statuses.headD 0),
      { w with tool := some statuses.tail, runs := w.runs ++ [args] })

/-- Runs the build tool, which must succeed. -/
def build (args : List String) : Work Unit := do
  let status ← runTool args
  if status = 0 then pure () else fail (.tool status)

end Work

end PumaBoard.Tasks
