import PumaBoard.Word

/-!
The thirty fields of a triangle setup bank in the order of their registers: the coordinates of
three vertices, then for each of eight interpolated quantities a start value and its gradients
along x and y. Each field has a register format and, for the floating point bank, a scale.
-/

namespace PumaBoard.Triangle

/-! ### Fields -/

/-- A corner of the triangle. -/
inductive Corner where
  | a
  | b
  | c
deriving DecidableEq, Repr

/-- A screen direction. -/
inductive Axis where
  | x
  | y
deriving DecidableEq, Repr

/-- A quantity interpolated over the triangle: colours, depth, and texture coordinates. -/
inductive Quantity where
  | r
  | g
  | b
  | z
  | a
  | s
  | t
  | w
deriving DecidableEq, Repr

/-- A field of a setup bank. -/
inductive Field where
  | vertex (corner : Corner) (axis : Axis)
  | start (quantity : Quantity)
  | gradient (quantity : Quantity) (axis : Axis)
deriving DecidableEq, Repr

/-- The corners in register order. -/
def Corner.all : List Corner := [.a, .b, .c]

/-- The quantities in register order. -/
def Quantity.all : List Quantity := [.r, .g, .b, .z, .a, .s, .t, .w]

/-- The fields in register order. -/
def Field.all : List Field :=
  Corner.all.flatMap (fun corner => [.vertex corner .x, .vertex corner .y]) ++
    Quantity.all.flatMap (fun q => [.start q, .gradient q .x, .gradient q .y])

/-! ### Positions -/

/-- The place of a corner in register order. -/
def Corner.index : Corner → Fin 3
  | a => 0
  | b => 1
  | c => 2

/-- The place of a quantity in register order. -/
def Quantity.index : Quantity → Fin 8
  | r => 0
  | g => 1
  | b => 2
  | z => 3
  | a => 4
  | s => 5
  | t => 6
  | w => 7

/-- The place of a field in register order. -/
def Field.index : Field → Fin 30
  | vertex corner .x => ⟨2 * corner.index, by omega⟩
  | vertex corner .y => ⟨2 * corner.index + 1, by omega⟩
  | start q => ⟨6 + 3 * q.index, by omega⟩
  | gradient q .x => ⟨6 + 3 * q.index + 1, by omega⟩
  | gradient q .y => ⟨6 + 3 * q.index + 2, by omega⟩

theorem Field.length_all : Field.all.length = 30 := rfl

/-- The field at a place in register order. -/
def Field.ofIndex (i : Fin 30) : Field := Field.all.get (Fin.cast Field.length_all.symm i)

theorem Field.ofIndex_index (f : Field) : Field.ofIndex f.index = f := by
  cases f with
  | vertex corner axis => cases corner <;> cases axis <;> rfl
  | start q => cases q <;> rfl
  | gradient q axis => cases q <;> cases axis <;> rfl

theorem Field.index_ofIndex (i : Fin 30) : (Field.ofIndex i).index = i := by
  revert i; decide

/-! ### Formats -/

/-- How a register value is cut to the width of its field. -/
inductive Format where
  /-- A signed number of 16 bits. -/
  | signed16
  /-- An unsigned number of 24 bits. -/
  | unsigned24
  /-- A signed number of 24 bits. -/
  | signed24
  /-- An unsigned word. -/
  | unsigned32
  /-- A signed word. -/
  | signed32
deriving DecidableEq, Repr

namespace Format

/-- The value that a field of this format keeps of a register value. -/
def store : Format → UInt32 → UInt32
  | signed16, v => Word.signExtend16 v
  | unsigned24, v => Word.low24 v
  | signed24, v => Word.signExtend24 v
  | unsigned32, v => v
  | signed32, v => v

/-- Whether the field holds a signed number. -/
def isSigned : Format → Bool
  | signed16 | signed24 | signed32 => true
  | unsigned24 | unsigned32 => false

end Format

/-- Whether a quantity is a colour channel, held in 24 bits. -/
def Quantity.isColour : Quantity → Bool
  | r | g | b | a => true
  | z | s | t | w => false

/-- The register format of a field. -/
def Field.format : Field → Format
  | vertex _ _ => .signed16
  | start q => if q.isColour then .unsigned24 else .unsigned32
  | gradient q _ => if q.isColour then .signed24 else .signed32

/-! ### Scales -/

/-- The number of fraction bits of a quantity: 12 for colours and depth, 18 for `s` and `t`, and
30 for `w`. -/
def Quantity.fractionBits : Quantity → Nat
  | r | g | b | z | a => 12
  | s | t => 18
  | w => 30

/-- The number of fraction bits of a field; vertices have 4. -/
def Field.fractionBits : Field → Nat
  | vertex _ _ => 4
  | start q => q.fractionBits
  | gradient q _ => q.fractionBits

end PumaBoard.Triangle
