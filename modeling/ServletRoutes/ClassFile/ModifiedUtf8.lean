import ServletRoutes.ClassFile.Fault

/-!
# `ServletRoutes.ClassFile.ModifiedUtf8`: the texts of class files

Class files write a zero character in two bytes and a character beyond the basic plane as two
surrogates of three bytes each. Their texts are first brought into plain UTF-8 and then decoded;
a surrogate without its partner becomes the replacement character.
-/

set_option autoImplicit false

namespace ServletRoutes.ClassFile.ModifiedUtf8

/-- The code unit of three bytes, whose last two are not checked. -/
def unit (a b c : UInt8) : Nat :=
  a.toNat % 0x10 * 0x1000 + b.toNat % 0x40 * 0x40 + c.toNat % 0x40

/-- The first half of a character beyond the basic plane. -/
def isHigh (u : Nat) : Bool := 0xD800 ≤ u && u < 0xDC00

/-- The second half of a character beyond the basic plane. -/
def isLow (u : Nat) : Bool := 0xDC00 ≤ u && u < 0xE000

/-- The character of two halves. -/
def paired (high low : Nat) : Char :=
  Char.ofNat (0x10000 + (high - 0xD800) * 0x400 + (low - 0xDC00))

/-- A first half without its partner. -/
def released : Option Nat → Bytes
  | none => []
  | some _ => Text.Utf8.encodeChar '\uFFFD'

/-- What a second half makes of the first half before it. -/
def completed (low : Nat) : Option Nat → Bytes
  | none => Text.Utf8.encodeChar '\uFFFD'
  | some high => Text.Utf8.encodeChar (paired high low)

/-- The bytes in plain UTF-8, given the first half that waits for its partner. -/
def plainFrom (pending : Option Nat) : Bytes → Except TextFault Bytes
  | [] => .ok (released pending)
  | a :: rest =>
    if a.toNat < 0x80 then (plainFrom none rest).map fun bytes => released pending ++ a :: bytes
    else if a.toNat < 0xC0 then .error .leadByte
    else if a.toNat < 0xE0 then
      match rest with
      | b :: rest =>
        let written := if a.toNat = 0xC0 && b.toNat = 0x80 then [0] else [a, b]
        (plainFrom none rest).map fun bytes => released pending ++ written ++ bytes
      | [] => .error .cutOff
    else if a.toNat < 0xF0 then
      match rest with
      | b :: c :: rest =>
        let u := unit a b c
        -- a first half is kept back until the next character shows whether it has a partner
        if isHigh u then (plainFrom (some u) rest).map fun bytes => released pending ++ bytes
        else if isLow u then (plainFrom none rest).map fun bytes => completed u pending ++ bytes
        else (plainFrom none rest).map fun bytes => released pending ++ [a, b, c] ++ bytes
      | _ => .error .cutOff
    else .error .leadByte

/-- The bytes in plain UTF-8. -/
def plain (bytes : Bytes) : Except TextFault Bytes := plainFrom none bytes

/-- The text of the bytes. -/
def decode (bytes : Bytes) : Except TextFault Text :=
  match plain bytes with
  | .error fault => .error fault
  | .ok bytes =>
    match Text.Utf8.decode bytes with
    | .error fault => .error (.utf8 fault)
    | .ok text => .ok text

end ServletRoutes.ClassFile.ModifiedUtf8
