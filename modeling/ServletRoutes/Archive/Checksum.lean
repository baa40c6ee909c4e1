import ServletRoutes.Text.Basic

/-!
# `ServletRoutes.Archive.Checksum`: the checksum of an entry

The bits of the bytes, the lowest of each byte first, are the coefficients of a polynomial over
the field of two elements. The checksum is its remainder by a fixed polynomial of degree 32.
-/

set_option autoImplicit false

namespace ServletRoutes.Archive

/-- A checksum after one more bit, the lowest one. -/
def checksumBit (sum : UInt32) : UInt32 :=
  if sum &&& 1 = 1 then (sum >>> 1) ^^^ 0xEDB88320 else sum >>> 1

/-- A checksum after one more byte. -/
def checksumByte (sum : UInt32) (byte : UInt8) : UInt32 :=
  (List.range 8).foldl (fun sum _ => checksumBit sum) (sum ^^^ byte.toUInt32)

/-- The checksum of bytes, all bits turned over at the beginning and at the end. -/
def checksum (bytes : Bytes) : UInt32 := bytes.foldl checksumByte 0xFFFFFFFF ^^^ 0xFFFFFFFF

end ServletRoutes.Archive
