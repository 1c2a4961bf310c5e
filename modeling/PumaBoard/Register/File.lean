import PumaBoard.Register.Map

/-!
The register file: one stored word for every register. Main statement: a write changes the word of
its register and of no other.
-/

namespace PumaBoard

/-- The stored word of every register. -/
structure RegisterFile where
  words : Vector UInt32 256
deriving DecidableEq, Repr

namespace RegisterFile

/-- All words zero. -/
def zero : RegisterFile := ⟨Vector.replicate 256 0⟩

instance : Inhabited RegisterFile := ⟨zero⟩

/-- The word of a register. -/
def get (f : RegisterFile) (r : Register) : UInt32 := f.words.get r

/-- Writes the word of a register. -/
def set (f : RegisterFile) (r : Register) (v : UInt32) : RegisterFile :=
  ⟨f.words.set r.val v r.isLt⟩

theorem get_set (f : RegisterFile) (r s : Register) (v : UInt32) :
    (f.set r v).get s = if r = s then v else f.get s := by
  simp only [get, set, Vector.get, Vector.set, Array.getElem_set, Fin.ext_iff]
  rfl

end RegisterFile

end PumaBoard
