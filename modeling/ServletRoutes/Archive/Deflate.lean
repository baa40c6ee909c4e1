import ServletRoutes.Archive.Inflate

/-!
# `ServletRoutes.Archive.Deflate`: deflating bytes

Bytes can be deflated in a single block of the fixed code, one symbol for each byte. This takes
none of them again, so little is saved, but every reader of deflated bytes has to understand it.
-/

set_option autoImplicit false

namespace ServletRoutes.Archive

namespace Deflated

/-- The number whose bits these are, the lowest first. -/
def natOf : List Bool → Nat
  | [] => 0
  | b :: bits => b.toNat + 2 * natOf bits

/-- So many bytes of bits, filled up with zeros. -/
def pack : Nat → List Bool → Bytes
  | 0, _ => []
  | count + 1, bits => UInt8.ofNat (natOf (bits.take 8)) :: pack count (bits.drop 8)

/-- So many bits of a number, the highest first. -/
def bitsDown (size n : Nat) : List Bool := (List.range size).reverse.map fun i => n.testBit i

/-- The row of bits in the fixed code of a byte, the end symbol or a small size. -/
def row (symbol : Nat) : List Bool :=
  if symbol < 144 then bitsDown 8 (0x30 + symbol)
  else if symbol < endSymbol then bitsDown 9 (0x100 + symbol)
  else bitsDown 7 (symbol - endSymbol)

/-- The bits of the last block of the fixed code that gives bytes. -/
def blockBits (bytes : Bytes) : List Bool :=
  [true, true, false] ++ bytes.flatMap (fun b => row b.toNat) ++ row endSymbol

end Deflated

/-- Bytes that give these when they are inflated. -/
def deflate (bytes : Bytes) : Bytes :=
  let bits := Deflated.blockBits bytes
  Deflated.pack ((bits.length + 7) / 8) bits

end ServletRoutes.Archive
