import ServletRoutes.Archive.Huffman

/-!
# `ServletRoutes.Archive.Inflate`: deflated bytes

Deflated bytes are read as bits, in blocks. A block holds bytes as they are, or symbols of a code: a
byte, the end of the block, or a size with which a second code gives a distance, so that bytes are
taken again from that far back. The two codes are fixed or stand at the beginning of the block.

Bits that mean nothing are an error. Where the bits end too early, what they have given so far is
the outcome: it is for the reader of an archive to see that something is missing.
-/

set_option autoImplicit false

namespace ServletRoutes.Archive

namespace Deflated

open BitReader (nat)

/-! ### Codes of a block -/

/-- The symbol for the end of a block; those below it are bytes. -/
def endSymbol : Nat := 256

/-- The codes of a block. -/
structure Codes where
  /-- For bytes, the end of the block and sizes. -/
  literals : Code
  distances : Code

/-- The sizes of the rows of bits in the fixed code for bytes, the end and sizes. -/
def fixedSizes : List Nat :=
  List.replicate 144 8 ++ List.replicate 112 9 ++ List.replicate 24 7 ++ List.replicate 8 8

/-- The fixed code for bytes, the end and sizes. -/
def fixedLiterals : Code := (Code.ofSizes? fixedSizes).getD .unused

/-- The fixed codes. -/
def fixedCodes : Codes :=
  ⟨fixedLiterals, (Code.ofSizes? (List.replicate 32 5)).getD .unused⟩

/-- A code all of whose rows are in use. -/
def completeCode? (sizes : List Nat) : Option Code :=
  (Code.ofSizes? sizes).filter (·.isComplete)

/-- A code all of whose rows are in use, or with at most one row, of a single bit. -/
def blockCode? (sizes : List Nat) : Option Code :=
  (Code.ofSizes? sizes).filter fun code => code.isComplete || sizes.all (· ≤ 1)

/-- A result, or a stop where there is none. -/
def required {α : Type} : Option α → BitReader α
  | some a => pure a
  | none => .invalid

/-- The order in which the sizes for the code of sizes stand. -/
def sizeOrder : List Nat := [16, 17, 18, 0, 8, 7, 9, 6, 10, 5, 11, 4, 12, 3, 13, 2, 14, 1, 15]

/-- So many sizes of three bits each. -/
def shortSizes : Nat → BitReader (List Nat)
  | 0 => return []
  | count + 1 => do
    let size ← nat 3
    let sizes ← shortSizes count
    return size :: sizes

/-- Sizes up to so many, behind those that are known, the last one first. A symbol of their code is a
size or repeats one. Every round adds a size, so there are as many rounds as sizes. -/
def sizesUpTo (code : Code) (count : Nat) : Nat → List Nat → BitReader (List Nat)
  | 0, known => if known.length = count then return known.reverse else .invalid
  | rounds + 1, known => do
    if known.length = count then return known.reverse
    if count < known.length then BitReader.invalid
    let symbol ← code.next
    match symbol with
    | 16 =>
      let repeats ← nat 2
      match known with
      | [] => .invalid
      | last :: _ => sizesUpTo code count rounds (List.replicate (3 + repeats) last ++ known)
    | 17 =>
      let repeats ← nat 3
      sizesUpTo code count rounds (List.replicate (3 + repeats) 0 ++ known)
    | 18 =>
      let repeats ← nat 7
      sizesUpTo code count rounds (List.replicate (11 + repeats) 0 ++ known)
    | size => sizesUpTo code count rounds (size :: known)

/-- The codes at the beginning of a block. -/
def blockCodes : BitReader Codes := do
  let literalCount := 257 + (← nat 5)
  let distanceCount := 1 + (← nat 5)
  let sizeCount := 4 + (← nat 4)
  if 286 < literalCount || 30 < distanceCount then BitReader.invalid
  let short ← shortSizes sizeCount
  let sizeAt n := ((sizeOrder.zip short).lookup n).getD 0
  let sizeCode ← required (completeCode? ((List.range 19).map sizeAt))
  let count := literalCount + distanceCount
  let sizes ← sizesUpTo sizeCode count count []
  let (literalSizes, distanceSizes) := sizes.splitAt literalCount
  -- a block that cannot end means nothing
  if literalSizes.getD endSymbol 0 = 0 then BitReader.invalid
  return ⟨← required (blockCode? literalSizes), ← required (blockCode? distanceSizes)⟩

/-! ### Symbols of a block -/

/-- For each symbol after the end symbol the smallest size that it gives, and how many bits of a number
to add follow. -/
def sizeTable : List (Nat × Nat) := [
  (3, 0), (4, 0), (5, 0), (6, 0), (7, 0), (8, 0), (9, 0), (10, 0), (11, 1), (13, 1), (15, 1), (17, 1),
  (19, 2), (23, 2), (27, 2), (31, 2), (35, 3), (43, 3), (51, 3), (59, 3), (67, 4), (83, 4), (99, 4),
  (115, 4), (131, 5), (163, 5), (195, 5), (227, 5), (258, 0)]

/-- The same for distances. -/
def distanceTable : List (Nat × Nat) := [
  (1, 0), (2, 0), (3, 0), (4, 0), (5, 1), (7, 1), (9, 2), (13, 2), (17, 3), (25, 3), (33, 4), (49, 4),
  (65, 5), (97, 5), (129, 6), (193, 6), (257, 7), (385, 7), (513, 8), (769, 8), (1025, 9), (1537, 9),
  (2049, 10), (3073, 10), (4097, 11), (6145, 11), (8193, 12), (12289, 12), (16385, 13), (24577, 13)]

/-- The number for a row of a table. -/
def entry (table : List (Nat × Nat)) (n : Nat) : BitReader Nat := do
  let (smallest, size) ← required table[n]?
  let more ← nat size
  return smallest + more

/-- What stands in a block. -/
inductive Item
  | byte (b : UInt8)
  /-- So many bytes again, from so far back. -/
  | again (size distance : Nat)
  | done
deriving DecidableEq

/-- The next item. -/
def item (codes : Codes) : BitReader Item := do
  let symbol ← codes.literals.next
  if symbol < endSymbol then return .byte (UInt8.ofNat symbol)
  if symbol = endSymbol then return .done
  let size ← entry sizeTable (symbol - (endSymbol + 1))
  let distance ← entry distanceTable (← codes.distances.next)
  return .again size distance

/-! ### Blocks -/

/-- The bytes so far, the last one first, and the bits that are left unless there was a stop. -/
abbrev Progress := Bytes × Except Stop (List Bool)

/-- Adds so many bytes from so far back; each of them can be taken again at once. -/
def addAgain (distance : Nat) : Nat → Bytes → Bytes
  | 0, out => out
  | size + 1, out => addAgain distance size (out.getD (distance - 1) 0 :: out)

/-- Adds so many bytes as they are. -/
def addPlain : Nat → List Bool → Bytes → Progress
  | 0, bits, out => (out, .ok bits)
  | count + 1, bits, out =>
    match nat 8 bits with
    | .error stop => (out, .error stop)
    | .ok (b, bits) => addPlain count bits (UInt8.ofNat b :: out)

/-- Adds what the items of a block give. Every item takes a bit, so there are no more rounds than
bits. -/
def addItems (codes : Codes) : Nat → List Bool → Bytes → Progress
  | 0, _, out => (out, .error .ended)
  | rounds + 1, bits, out =>
    match item codes bits with
    | .error stop => (out, .error stop)
    | .ok (.byte b, bits) => addItems codes rounds bits (b :: out)
    | .ok (.again size distance, bits) =>
      if distance ≤ out.length then addItems codes rounds bits (addAgain distance size out)
      else (out, .error .invalid)
    | .ok (.done, bits) => (out, .ok bits)

/-- How many bytes a block holds as they are: a number with its complement. -/
def plainSize : BitReader Nat := do
  let size ← nat 16
  let complement ← nat 16
  if size + complement = 0xFFFF then return size else BitReader.invalid

/-- Adds a block of a kind. Bytes as they are begin with a byte of the deflated ones. -/
def addBlock (kind : Nat) (bits : List Bool) (out : Bytes) : Progress :=
  match kind with
  | 0 =>
    match plainSize (bits.drop (bits.length % 8)) with
    | .error stop => (out, .error stop)
    | .ok (size, bits) => addPlain size bits out
  | 1 => addItems fixedCodes bits.length bits out
  | 2 =>
    match blockCodes bits with
    | .error stop => (out, .error stop)
    | .ok (codes, bits) => addItems codes bits.length bits out
  | _ => (out, .error .invalid)

/-- The beginning of a block: whether it is the last one, and its kind. -/
def blockStart : BitReader (Bool × Nat) := do
  let last ← nat 1
  let kind ← nat 2
  return (last = 1, kind)

/-- Adds blocks up to the last one. Every block takes bits, so there are no more rounds than bits. -/
def addBlocks : Nat → List Bool → Bytes → Progress
  | 0, _, out => (out, .error .ended)
  | rounds + 1, bits, out =>
    match blockStart bits with
    | .error stop => (out, .error stop)
    | .ok ((last, kind), bits) =>
      match addBlock kind bits out with
      | (out, .error stop) => (out, .error stop)
      | (out, .ok bits) => if last then (out, .ok bits) else addBlocks rounds bits out

end Deflated

/-- The bytes that were deflated. What follows the last block is not looked at. -/
def inflate (bytes : Bytes) : Option Bytes :=
  let bits := bitsOf bytes
  match Deflated.addBlocks bits.length bits [] with
  | (_, .error .invalid) => none
  | (out, _) => some out.reverse

/-- A block of the fixed code in which nine bytes are taken again from three back. -/
example : inflate [0x4B, 0x4C, 0x4A, 0x4E, 0x84, 0x21, 0x00] =
    some ("abcabcabcabc".toList.map fun c => UInt8.ofNat c.toNat) := by decide +kernel

/-- A block with codes of its own. -/
example : inflate [0x05, 0xC1, 0x01, 0x01, 0x00, 0x00, 0x08, 0xC3, 0xA0, 0xAC, 0xDC, 0xF5, 0xCF, 0x20,
      0x88, 0x65, 0x38, 0x75, 0x79] =
    some ("adaabdabaaacaddcda".toList.map fun c => UInt8.ofNat c.toNat) := by decide +kernel

end ServletRoutes.Archive
