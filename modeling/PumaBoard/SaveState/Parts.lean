import PumaBoard.Coprocessor.Snapshot
import PumaBoard.SaveState.Codec
import PumaBoard.Time.Stamp

/-!
The codecs of the parts of a snapshot, and of the snapshot as a whole.
-/

namespace PumaBoard.Codec

/-- An instant as a time stamp. -/
def instant : Codec Time.Instant := text.partIso Time.Instant.ofStamp? Time.Instant.stamp

/-- A mode by its number. -/
def mode : Codec Aperture.Mode :=
  word.partIso
    (fun n => if n = 0 then some .mb8 else if n = 1 then some .mb4 else none)
    (fun m => match m with | .mb8 => 0 | .mb4 => 1)

open Triangle in
/-- The order in which the fields of the integer bank are saved: colour starts come before colour
gradients. -/
def setupOrder : List Field :=
  [.vertex .a .x, .vertex .a .y, .vertex .b .x, .vertex .b .y, .vertex .c .x, .vertex .c .y] ++
    [Quantity.r, .g, .b, .a].map .start ++
    [Quantity.r, .g, .b, .a].flatMap (fun q => [.gradient q .x, .gradient q .y]) ++
    [Quantity.z, .s, .t, .w].flatMap (fun q => [.start q, .gradient q .x, .gradient q .y])

/-- The integer bank; signed fields are folded. -/
def setup : Codec Triangle.Setup :=
  record setupOrder
    (fun f => if f.format.isSigned then signedWord else word)
    Triangle.Setup.get Triangle.Setup.put Triangle.Setup.zero

/-- The floating point bank as bit patterns in register order. -/
def floatSetup : Codec Triangle.FloatSetup :=
  record Triangle.Field.all (fun _ => fixedWord)
    Triangle.FloatSetup.get Triangle.FloatSetup.set Triangle.FloatSetup.zero

/-- A fog table entry. -/
def fogEntry : Codec Fog.Entry :=
  (byte.pair byte).iso (fun v => ⟨v.1, v.2⟩) (fun e => (e.fog, e.dfog))

/-- The ring. -/
def ring : Codec Ring :=
  (flag.pair (word.pair (word.pair (word.pair (word.pair (word.pair word)))))).iso
    (fun (enabled, base, bottom, top, count, readPtr, threshold) =>
      ⟨enabled, base, bottom, top, count, readPtr, threshold⟩)
    (fun r =>
      (r.enabled, r.basePage, r.bottomPage, r.topPage, r.entryCount, r.readPtr, r.threshold))

/-- The buffer swaps. -/
def swap : Codec Swap :=
  (byte.pair (flag.pair long)).iso
    (fun (pending, requested, completed) => ⟨pending, requested, completed⟩)
    (fun s => (s.pending, s.requested, s.completed))

/-- The statistics counters. -/
def counters : Codec Counters :=
  (word.pair (word.pair (word.pair (word.pair word)))).iso
    (fun (a, b, c, d, e) => ⟨a, b, c, d, e⟩)
    (fun c => (c.pixelsIn, c.chromaFail, c.depthFail, c.alphaFail, c.pixelsOut))

/-- The window. -/
def window : Codec Window :=
  (signed.pair (signed.pair (word.pair word))).iso
    (fun (x, y, width, height) => ⟨x, y, width, height⟩)
    (fun w => (w.x, w.y, w.width, w.height))

/-- A snapshot. -/
def snapshot : Codec Snapshot :=
  (mode.pair ((array word).pair (setup.pair (floatSetup.pair ((array fogEntry).pair (word.pair
    (ring.pair (swap.pair (counters.pair (window.pair (flag.pair (flag.pair (flag.pair
      (bytes.pair bytes)))))))))))))).iso
    (fun (mode, regs, triangle, floatTriangle, fog, status, ring, swap, counters, window, enabled,
        request, grant, frame, texture) =>
      ⟨mode, regs, triangle, floatTriangle, fog, status, ring, swap, counters, window, enabled,
        request, grant, frame, texture⟩)
    (fun s =>
      (s.mode, s.regs, s.triangle, s.floatTriangle, s.fog, s.status, s.ring, s.swap, s.counters,
        s.window, s.enabled, s.pumaRequest, s.pumaGrant, s.frame, s.texture))

end PumaBoard.Codec
