import PumaBoard.CommandLine.TraceRunner
import PumaBoard.Environment.File
import Std.Time.DateTime.Timestamp

/-!
The trace runner as a program. It reads the files and the environment, prints the report on standard
output and everything else on standard error. It exits with the status of the ending, and with 2
when it was called wrongly.
-/

namespace PumaBoard.Program

open CommandLine (Ending TraceRequest TraceSources TraceReport)

/-! ### Input -/

/-- Reads a text file. -/
def readText (path : String) : IO (Except Error String) := do
  try return .ok (← IO.FS.readFile path)
  catch _ => return .error .file

/-- Reads the environment file of the working directory or of the nearest directory above it. -/
def readEnvironmentFile : IO String := do
  let depth := ((← IO.currentDir).toString.splitOn "/").length
  for n in List.range depth do
    let path := String.join (List.replicate n "../") ++ ".env"
    match ← readText path with
    | .ok text => return text
    | .error _ => pure ()
  return ""

/-- The variables that decide over a configuration. -/
def settingNames : List String := ["AT3D_VRAM_MB", "AT3D_VOODOO_RUSH", "AT3D_PUMA_MODE"]

/-- Reads the given variables of the environment. -/
def readVariables (names : List String) : IO Environment.Variables := do
  let mut found := []
  for name in names do
    match ← IO.getEnv name with
    | some value => found := (name, value) :: found
    | none => pure ()
  return found

/-- Reads the environment with the variables of the environment file. -/
def readEnvironment : IO Environment.Loaded := do
  let text ← readEnvironmentFile
  let vars ← readVariables (settingNames ++ Environment.mentioned text)
  let loaded := Environment.load vars text
  if loaded.fault.isSome then IO.eprintln "Warning: Failed to load .env file"
  return loaded

/-- Reads what a request needs in an environment. -/
def readSources (r : TraceRequest) (environment : Environment.Loaded) : IO TraceSources := do
  let config ← r.config.mapM readText
  let script ← readText r.script
  return ⟨config, environment, script⟩

/-! ### Output -/

/-- The time. -/
def now : IO Time.Instant := do
  let t ← Std.Time.Timestamp.now
  return ⟨t.val.second.val, t.val.nano.val.toNat⟩

/-- Prints the notices that matter to a user. -/
def printNotices (h : HostChip) : IO Unit := do
  for n in h.notices do
    if n.level.rank ≤ Level.info.rank then IO.eprintln (n.level.name ++ ": " ++ n.message)

/-- Saves the state of the coprocessor after a run. -/
def save (r : TraceRequest) (report : TraceReport) (path : String) : IO Unit := do
  match r.saved report (← now) with
  | some state => IO.FS.writeBinFile path state.toBytes
  | none => IO.eprintln "error: No Voodoo Rush attached; save state not written"

/-- Saves the state after a run, if that is asked for; the state may be impossible to write. -/
def saveIfAsked (r : TraceRequest) (report : TraceReport) : IO Ending := do
  match r.saveState with
  | none => return .done report
  | some path =>
    try
      save r report path
      return .done report
    catch _ => return .failed .file

/-- Prints the report of a run and saves the state. -/
def finish (r : TraceRequest) (report : TraceReport) : IO Ending := do
  printNotices report.board
  IO.print report.output
  saveIfAsked r report

/-- Carries out a request in an environment. -/
def carryOut (r : TraceRequest) (environment : Environment.Loaded) : IO Ending := do
  match r.carryOut (← readSources r environment) with
  | .done report => finish r report
  | ending => return ending

/-- Prints the error of an ending and gives its exit status. -/
def leave (ending : Ending) : IO UInt32 := do
  match ending with
  | .failed e => IO.eprintln ("Error: " ++ e.message)
  | _ => pure ()
  return ending.status.toUInt32

/-- How the program is called. -/
def usage : String :=
  "Usage: at3d-rush [-c|--config FILE] [--json] [-s|--save-state FILE] SCRIPT"

end PumaBoard.Program

/-- Runs the trace script that the arguments name. An environment that cannot be set up ends the
program before the arguments are looked at. -/
def main (args : List String) : IO UInt32 := do
  let environment ← PumaBoard.Program.readEnvironment
  if environment.fault = some .unsettable then PumaBoard.Program.leave .aborted
  else
    match PumaBoard.CommandLine.TraceRequest.ofArguments args with
    | .ok r => PumaBoard.Program.leave (← PumaBoard.Program.carryOut r environment)
    | .error .help =>
      IO.println PumaBoard.Program.usage
      return 0
    | .error .misuse =>
      IO.eprintln PumaBoard.Program.usage
      return 2
