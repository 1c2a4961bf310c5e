import PumaBoard.CommandLine.Arguments
import PumaBoard.Config.File
import PumaBoard.Config.Override
import PumaBoard.Environment.File
import PumaBoard.SaveState.Basic
import PumaBoard.Trace.Summary

/-!
The trace runner: it builds a board from a configuration, runs a trace script on it and reports what
was read and how the board was left. The files have been read before, so a file that is missing or
unreadable is given as an error.
-/

namespace PumaBoard.CommandLine

/-! ### Arguments -/

/-- What the trace runner is asked to do. -/
structure TraceRequest where
  /-- The path of the script. -/
  script : String
  /-- The path of a configuration file. -/
  config : Option String := none
  /-- The report is a document instead of lines of text. -/
  json : Bool := false
  /-- The path to which the state of the coprocessor is saved after the run. -/
  saveState : Option String := none
deriving DecidableEq, Repr

/-- The arguments of the trace runner. -/
def TraceRequest.usage : Usage where
  switches := [.value "config" 'c', .flag "json", .value "save-state" 's']
  operands := 1

/-- The request in the arguments. -/
def TraceRequest.ofArguments (args : List String) : Except Stop TraceRequest :=
  (usage.read args).map fun a =>
    { script := a.operand 0
      config := a.get? "config"
      json := a.has "json"
      saveState := a.get? "save-state" }

/-! ### Runs -/

/-- What a run reads from outside. -/
structure TraceSources where
  /-- The text of the configuration file, if one is asked for. -/
  config : Option (Except Error String)
  /-- The environment with what its file adds to it. -/
  environment : Environment.Loaded := {}
  script : Except Error String

/-- What a run leaves behind. -/
structure TraceReport where
  output : String
  board : HostChip

/-- The configuration of a run: the file, or the default, with its overrides. -/
def TraceSources.configuration (s : TraceSources) : Except Error Config := do
  let c ← match s.config with
    | none => pure {}
    | some text => Config.ofText (← text)
  match c.override (.ofLookup (Environment.find s.environment.vars)) with
  | (c, none) => return c
  | (_, some e) => throw e

/-- The rendering engine of a run, which takes note of what it is sent. -/
def recorder : Render.Backend := ⟨false⟩

/-- The board of a run. -/
def TraceSources.board (s : TraceSources) : Except Error HostChip := do
  let h ← (← s.configuration).build
  return h.withCoprocessor (·.attach recorder)

/-- The text of a summary. -/
def renderSummary (json : Bool) (s : Trace.Summary) : String :=
  if json then s.toJson.render ++ "\n" else String.join (s.lines.map (· ++ "\n"))

/-- Runs the script of a request. -/
def TraceRequest.run (r : TraceRequest) (s : TraceSources) : Except Error TraceReport := do
  let board ← s.board
  let script ← Trace.Script.ofText (← s.script)
  let run := script.run board
  match run.error with
  | some e => throw e
  | none => return ⟨renderSummary r.json (run.summary script.length), run.board⟩

/-- How a run ends. -/
inductive Ending where
  | done (report : TraceReport)
  | failed (e : Error)
  /-- The environment cannot be set up. -/
  | aborted

namespace Ending

/-- The exit status of an ending. -/
def status : Ending → UInt8
  | done _ => 0
  | failed _ => 1
  | aborted => 101

/-- The report, if the run has come to one. -/
def report? : Ending → Option TraceReport
  | done report => some report
  | _ => none

end Ending

/-- Carries out a request to its end. -/
def TraceRequest.carryOut (r : TraceRequest) (s : TraceSources) : Ending :=
  if s.environment.fault = some .unsettable then .aborted
  else
    match r.run s with
    | .ok report => .done report
    | .error e => .failed e

/-- The state to save after a run, if there is a coprocessor. -/
def TraceRequest.saved (r : TraceRequest) (report : TraceReport) (time : Time.Instant) :
    Option SaveState :=
  report.board.coprocessor.map fun d => .ofCoprocessor d time ("trace " ++ r.script)

end PumaBoard.CommandLine
