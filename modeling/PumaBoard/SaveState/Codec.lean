import PumaBoard.Bytes

/-!
Codecs: ways to write values one after another into bytes and to read them back. Unsigned numbers
take one byte below 251 and otherwise a mark and two, four or eight bytes; signed numbers are
folded onto unsigned ones first; texts, byte strings and lists start with their length.
-/

namespace PumaBoard

/-- A way to write values of a type and to read them back. -/
structure Codec (α : Type) where
  /-- Appends a value to the bytes written so far. -/
  write : ByteArray → α → ByteArray
  /-- Reads a value at a position and gives the position after it. -/
  read : ByteArray → Nat → Option (α × Nat)

namespace Codec

/-! ### Fixed widths -/

/-- One byte. -/
def byte : Codec UInt8 where
  write acc v := acc.push v
  read b i := if h : i < b.size then some (b[i], i + 1) else none

/-- A truth value in one byte; only 0 and 1 are read. -/
def flag : Codec Bool where
  write acc v := acc.push (if v then 1 else 0)
  read b i :=
    match byte.read b i with
    | some (0, j) => some (false, j)
    | some (1, j) => some (true, j)
    | _ => none

/-- Appends the `width` low bytes of a number, the lowest first. -/
def writeLow (acc : ByteArray) (n : Nat) : Nat → ByteArray
  | 0 => acc
  | width + 1 => writeLow (acc.push (UInt8.ofNat (n % 256))) (n / 256) width

/-- Reads a number of `width` bytes, the lowest first. -/
def readLow (b : ByteArray) (i : Nat) : Nat → Option (Nat × Nat)
  | 0 => some (0, i)
  | width + 1 => do
    let (low, i) ← byte.read b i
    let (high, i) ← readLow b i width
    return (low.toNat + 256 * high, i)

/-- A word in four bytes. -/
def fixedWord : Codec UInt32 where
  write acc v := writeLow acc v.toNat 4
  read b i := (readLow b i 4).map fun (n, j) => (UInt32.ofNat n, j)

/-! ### Variable widths -/

/-- Appends an unsigned number in its shortest form. -/
def writeNumber (acc : ByteArray) (n : Nat) : ByteArray :=
  if n < 251 then acc.push (UInt8.ofNat n)
  else if n < 0x10000 then writeLow (acc.push 251) n 2
  else if n < 0x100000000 then writeLow (acc.push 252) n 4
  else writeLow (acc.push 253) n 8

/-- Reads an unsigned number in any form of at most `width` bytes. -/
def readNumber (width : Nat) (b : ByteArray) (i : Nat) : Option (Nat × Nat) := do
  let (mark, i) ← byte.read b i
  if mark < 251 then some (mark.toNat, i)
  else if mark = 251 ∧ 2 ≤ width then readLow b i 2
  else if mark = 252 ∧ 4 ≤ width then readLow b i 4
  else if mark = 253 ∧ 8 ≤ width then readLow b i 8
  else none

/-- An unsigned number of 32 bits. -/
def word : Codec UInt32 where
  write acc v := writeNumber acc v.toNat
  read b i := (readNumber 4 b i).map fun (n, j) => (UInt32.ofNat n, j)

/-- An unsigned number of 64 bits. -/
def long : Codec UInt64 where
  write acc v := writeNumber acc v.toNat
  read b i := (readNumber 8 b i).map fun (n, j) => (UInt64.ofNat n, j)

/-- A length. -/
def length : Codec Nat where
  write acc v := writeNumber acc v
  read b i := readNumber 8 b i

/-! ### Combinations -/

/-- One value after another. -/
def pair {α β : Type} (a : Codec α) (b : Codec β) : Codec (α × β) where
  write acc v := b.write (a.write acc v.1) v.2
  read bs i := do
    let (x, i) ← a.read bs i
    let (y, i) ← b.read bs i
    return ((x, y), i)

/-- The same bytes for values of another shape. -/
def iso {α β : Type} (a : Codec α) (pack : α → β) (unpack : β → α) : Codec β where
  write acc v := a.write acc (unpack v)
  read bs i := (a.read bs i).map fun (x, j) => (pack x, j)

/-- The same bytes for the values that some of the others stand for. -/
def partIso {α β : Type} (a : Codec α) (pack : α → Option β) (unpack : β → α) : Codec β where
  write acc v := a.write acc (unpack v)
  read bs i := do
    let (x, i) ← a.read bs i
    let y ← pack x
    return (y, i)

/-- Reads `n` values and appends them to those read so far. -/
def readMany {α : Type} (a : Codec α) (b : ByteArray) (i : Nat) (acc : Array α) :
    Nat → Option (Array α × Nat)
  | 0 => some (acc, i)
  | n + 1 =>
    match a.read b i with
    | some (x, j) => readMany a b j (acc.push x) n
    | none => none

/-- A list of values after its length. -/
def array {α : Type} (a : Codec α) : Codec (Array α) where
  write acc v := v.foldl a.write (length.write acc v.size)
  read b i := do
    let (n, i) ← length.read b i
    readMany a b i #[] n

/-- Appends the parts of a record in some order. -/
def writeParts {α ι : Type} (part : ι → Codec UInt32) (get : α → ι → UInt32) (acc : ByteArray)
    (v : α) (order : List ι) : ByteArray :=
  order.foldl (fun acc k => (part k).write acc (get v k)) acc

/-- Reads the parts of a record in some order. -/
def readParts {α ι : Type} (part : ι → Codec UInt32) (put : α → ι → UInt32 → α) (b : ByteArray)
    (i : Nat) (v : α) : List ι → Option (α × Nat)
  | [] => some (v, i)
  | k :: ks =>
    match (part k).read b i with
    | some (w, j) => readParts part put b j (put v k w) ks
    | none => none

/-- A record of words, part by part in some order. -/
def record {α ι : Type} (order : List ι) (part : ι → Codec UInt32) (get : α → ι → UInt32)
    (put : α → ι → UInt32 → α) (blank : α) : Codec α where
  write acc v := writeParts part get acc v order
  read b i := readParts part put b i blank order

/-! ### Signed numbers, bytes and texts -/

/-- Folds a signed number onto the unsigned ones: 0, -1, 1, -2, 2 and so on. -/
def foldSign (w : UInt32) : UInt32 :=
  if w.toInt32 < 0 then ~~~(w <<< 1) else w <<< 1

/-- Undoes `foldSign`. -/
def unfoldSign (w : UInt32) : UInt32 :=
  if w &&& 1 = 0 then w >>> 1 else ~~~(w >>> 1)

/-- A signed number of 32 bits, held as a word. -/
def signedWord : Codec UInt32 := word.iso unfoldSign foldSign

/-- A signed number of 32 bits. -/
def signed : Codec Int32 := signedWord.iso UInt32.toInt32 Int32.toUInt32

/-- Bytes after their number. -/
def bytes : Codec ByteArray where
  write acc v := length.write acc v.size ++ v
  read b i := do
    let (n, i) ← length.read b i
    if i + n ≤ b.size then some (b.extract i (i + n), i + n) else none

/-- A text in UTF-8. -/
def text : Codec String := bytes.partIso String.fromUTF8? String.toUTF8

end Codec

end PumaBoard
