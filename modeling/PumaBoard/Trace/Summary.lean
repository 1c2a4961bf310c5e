import PumaBoard.Text.Json
import PumaBoard.Trace.Run

/-!
The summary of a run: what was read, and the state of the board at the end, as a document and as
lines of text.
-/

namespace PumaBoard.Trace

/-- The coprocessor after a run. -/
structure CoprocessorSummary where
  mode : Aperture.Mode
  enabled : Bool
  status : UInt32
  ring : Ring
  swap : Swap
  counters : Counters
  pumaRequest : Bool
  pumaGrant : Bool
deriving DecidableEq, Repr

/-- The board after a run. -/
structure Summary where
  accesses : Nat
  videoBytes : Nat
  coprocessor : Option CoprocessorSummary
  triangles : Nat
  readings : List Reading
deriving DecidableEq, Repr

/-- The summary of a coprocessor. -/
def CoprocessorSummary.of (d : Coprocessor) : CoprocessorSummary where
  mode := d.mode
  enabled := d.enabled
  status := d.statusValue
  ring := d.ring
  swap := d.swap
  counters := d.counters
  pumaRequest := d.pumaRequest
  pumaGrant := d.pumaGrant

/-- The summary of a run of so many accesses. -/
def Run.summary (r : Run) (accesses : Nat) : Summary where
  accesses := accesses
  videoBytes := r.board.video.size.bytes
  coprocessor := r.board.coprocessor.map .of
  triangles := r.triangles
  readings := r.readings.toList

/-! ### Documents -/

open Text (Json)

/-- The number of a word. -/
def wordJson (w : UInt32) : Json := .number w.toNat

/-- The command ring as a document. -/
def ringJson (r : Ring) : Json :=
  .object [
    ("enabled", .bool r.enabled),
    ("base_page", wordJson r.basePage),
    ("bottom_page", wordJson r.bottomPage),
    ("top_page", wordJson r.topPage),
    ("entry_count", wordJson r.entryCount),
    ("read_ptr", wordJson r.readPtr),
    ("threshold", wordJson r.threshold)]

/-- The buffer swaps as a document. -/
def swapJson (s : Swap) : Json :=
  .object [
    ("pending", .number s.pending.toNat),
    ("requested", .bool s.requested),
    ("completed", .number s.completed.toNat)]

/-- The statistics counters as a document. -/
def countersJson (c : Counters) : Json :=
  .object [
    ("pixels_in", wordJson c.pixelsIn),
    ("chroma_fail", wordJson c.chromaFail),
    ("zfunc_fail", wordJson c.depthFail),
    ("afunc_fail", wordJson c.alphaFail),
    ("pixels_out", wordJson c.pixelsOut)]

/-- The summary of a coprocessor as a document. -/
def CoprocessorSummary.toJson (s : CoprocessorSummary) : Json :=
  .object [
    ("puma_mode", .string s.mode.name),
    ("enabled", .bool s.enabled),
    ("status", wordJson s.status),
    ("cmdfifo", ringJson s.ring),
    ("swap", swapJson s.swap),
    ("counters", countersJson s.counters),
    ("puma_request", .bool s.pumaRequest),
    ("puma_grant", .bool s.pumaGrant)]

/-- The value of a read as a document. -/
def Reading.toJson (x : Reading) : Json :=
  .object [
    ("line", .number x.line),
    ("op", .string x.route.command),
    ("addr", wordJson x.addr),
    ("value", wordJson x.value)]

/-- The summary as a document. -/
def Summary.toJson (s : Summary) : Json :=
  .object [
    ("accesses", .number s.accesses),
    ("vram_bytes", .number s.videoBytes),
    ("rush", match s.coprocessor with | some c => c.toJson | none => .null),
    ("triangles", .number s.triangles),
    ("reads", .array (s.readings.map Reading.toJson))]

/-! ### Lines of text -/

/-- The line on the value of a read. -/
def Reading.text (x : Reading) : String :=
  Text.padLeft 5 ' ' (toString x.line) ++ ": " ++ Text.padRight 6 x.route.command ++ " 0x" ++
    Text.hexUpperPad 8 x.addr.toNat ++ " = 0x" ++ Text.hexUpperPad 8 x.value.toNat

/-- The line on the ring. -/
def ringLine (r : Ring) : String :=
  "cmdfifo:    " ++ (if r.enabled then "on" else "off") ++ " bottom=0x" ++
    Text.hexUpper r.bottomPage.toNat ++ " top=0x" ++ Text.hexUpper r.topPage.toNat ++
    s!" entries={r.entryCount} rdptr={r.readPtr}"

/-- The lines on the coprocessor. -/
def CoprocessorSummary.lines (s : CoprocessorSummary) : List String :=
  [s!"voodoo rush: {s.mode.megabytes} MB PUMA, " ++ (if s.enabled then "enabled" else "disabled"),
   "status:     0x" ++ Text.hexUpperPad 8 s.status.toNat,
   ringLine s.ring,
   s!"swap:       pending={s.swap.pending} requested={s.swap.requested} " ++
     s!"completed={s.swap.completed}"]

/-- The lines of the summary: the reads, the board, and the coprocessor if there is one. -/
def Summary.lines (s : Summary) : List String :=
  s.readings.map Reading.text ++
    [s!"accesses:   {s.accesses}", s!"vram:       {s.videoBytes / 1024} KB"] ++
    match s.coprocessor with
    | some c => c.lines ++ [s!"triangles:  {s.triangles}"]
    | none => ["voodoo rush: not attached"]

end PumaBoard.Trace
