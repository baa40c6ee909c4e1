import ServletRoutes.Text.Utf8

/-!
# `ServletRoutes.Text.Slice`: bytes between offsets

Offsets into a text count its bytes. `find?` gives the offset at which other bytes first stand, and
`slice?` the bytes between two offsets. A slice that would begin or end within a code point does not
exist, nor does one behind the end of the text or one that ends before it begins.
-/

set_option autoImplicit false

namespace ServletRoutes.Text.Utf8

/-- The offset of the first place at which the needle stands. -/
def find? (needle : Bytes) : Bytes → Option Nat
  | [] => if needle = [] then some 0 else none
  | b :: bytes => if needle <+: b :: bytes then some 0 else (find? needle bytes).map (· + 1)

/-- No code point lies on both sides of the offset. -/
def isBoundary (bytes : Bytes) (offset : Nat) : Bool :=
  offset = 0 || offset = bytes.length || bytes[offset]?.any fun b => !continues b

/-- The bytes from one offset to another. -/
def slice? (bytes : Bytes) (start stop : Nat) : Option Bytes :=
  if start ≤ stop && isBoundary bytes start && isBoundary bytes stop then
    some (bytes.extract start stop)
  else none

end ServletRoutes.Text.Utf8
