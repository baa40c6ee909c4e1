import ServletRoutes.Text.Basic

/-!
# `ServletRoutes.Archive.Huffman`: codes of bits for symbols

A code gives every symbol a row of bits, such that no row is the beginning of another one. It is a
tree: each bit tells which of two smaller codes goes on. A code is known by the sizes of its rows
alone (`Code.ofSizes?`): shorter rows come first, and rows of one size in the order of the symbols.

`next_append` says that a symbol is read from its row of bits.
-/

set_option autoImplicit false

namespace ServletRoutes.Archive

/-- Why reading bits stops. -/
inductive Stop
  /-- There are no more bits. -/
  | ended
  /-- The bits mean nothing. -/
  | invalid
deriving DecidableEq

/-- Takes a value from the beginning of the bits, or stops. -/
abbrev BitReader (α : Type) := StateT (List Bool) (Except Stop) α

/-- The bits of bytes, the lowest of each byte first. -/
def bitsOf (bytes : Bytes) : List Bool :=
  bytes.flatMap fun b => (List.range 8).map fun n => b.toNat.testBit n

namespace BitReader

/-- Stops at bits that mean nothing. -/
def invalid {α : Type} : BitReader α := fun _ => .error .invalid

/-- A number of so many bits, the lowest first. -/
def nat : Nat → BitReader Nat
  | 0, bits => .ok (0, bits)
  | _ + 1, [] => .error .ended
  | size + 1, b :: bits => do
    let (n, bits) ← nat size bits
    return (b.toNat + 2 * n, bits)

end BitReader

/-- A code, by what its next bit tells. -/
inductive Code
  /-- No row of bits goes on here. -/
  | unused
  | symbol (n : Nat)
  | branch (zero one : Code)
deriving DecidableEq

namespace Code

/-- Takes the next symbol. -/
def next : Code → BitReader Nat
  | unused, _ => .error .invalid
  | symbol n, bits => .ok (n, bits)
  | branch _ _, [] => .error .ended
  | branch zero one, b :: bits => if b then one.next bits else zero.next bits

/-- What goes on after some bits. -/
def after : Code → List Bool → Code
  | code, [] => code
  | branch zero one, b :: bits => (if b then one else zero).after bits
  | _, _ :: _ => unused

/-- A symbol is read from the row of bits that leads to it. -/
theorem next_append {code : Code} {row : List Bool} {n : Nat} (h : code.after row = symbol n)
    (rest : List Bool) : code.next (row ++ rest) = .ok (n, rest) := by
  induction row generalizing code with
  | nil =>
    obtain rfl : code = symbol n := h
    rfl
  | cons b row ih =>
    cases code with
    | unused => simp [after] at h
    | symbol m => simp [after] at h
    | branch zero one =>
      cases b with
      | false => exact ih h
      | true => exact ih h

/-! ### Codes by the sizes of their rows -/

/-- The largest size of a row of bits. -/
def sizeLimit : Nat := 15

/-- The symbols with the sizes of their rows, in the order of the rows. A symbol with size 0 has
none. -/
def inOrder (sizes : List Nat) : List (Nat × Nat) :=
  (List.range sizeLimit).flatMap fun n => sizes.zipIdx.filter fun row => row.1 = n + 1

/-- The code that goes on after so many bits, at most so many more, for the next symbols, and the
symbols for which there is no room in it. -/
def grow : Nat → Nat → List (Nat × Nat) → Code × List (Nat × Nat)
  | _, _, [] => (unused, [])
  | more, size, (rowSize, n) :: rows =>
    if rowSize = size then (symbol n, rows)
    else
      match more with
      | 0 => (unused, (rowSize, n) :: rows)
      | more + 1 =>
        let (zero, rows) := grow more (size + 1) ((rowSize, n) :: rows)
        let (one, rows) := grow more (size + 1) rows
        (branch zero one, rows)

/-- Every row of bits goes on to a symbol. -/
def isComplete : Code → Bool
  | unused => false
  | symbol _ => true
  | branch zero one => zero.isComplete && one.isComplete

/-- The code with rows of these sizes, if there is room for all of them. -/
def ofSizes? (sizes : List Nat) : Option Code :=
  match grow sizeLimit 0 (inOrder sizes) with
  | (code, []) => some code
  | (_, _ :: _) => none

end Code

end ServletRoutes.Archive
