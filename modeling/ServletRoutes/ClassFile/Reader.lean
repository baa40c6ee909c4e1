import ServletRoutes.ClassFile.Fault

/-!
# `ServletRoutes.ClassFile.Reader`: reading bytes in order

A reader takes what it needs from the beginning of the bytes and leaves the rest. Numbers are
unsigned and stand with their highest byte first.
-/

set_option autoImplicit false

namespace ServletRoutes.ClassFile

/-- Takes a value from the beginning of the bytes, or fails. -/
abbrev Reader (α : Type) := StateT Bytes (Except Fault) α

namespace Reader

/-- Fails. -/
def fail {α : Type} (fault : Fault) : Reader α := fun _ => .error fault

/-- The outcome of a computation that reads nothing. -/
def lift {α : Type} : Except Fault α → Reader α
  | .ok a => pure a
  | .error fault => fail fault

/-- A number of one byte. -/
def u8 : Reader Nat
  | [] => .error .endOfInput
  | b :: rest => .ok (b.toNat, rest)

/-- A number of two bytes. -/
def u16 : Reader Nat := do
  let high ← u8
  let low ← u8
  return high * 0x100 + low

/-- A number of four bytes. -/
def u32 : Reader Nat := do
  let high ← u16
  let low ← u16
  return high * 0x10000 + low

/-- So many bytes. -/
def take (n : Nat) : Reader Bytes := fun bytes =>
  if bytes.length < n then .error .endOfInput else .ok (bytes.take n, bytes.drop n)

/-- Leaves out so many bytes. -/
def skip (n : Nat) : Reader Unit := do
  let _ ← take n
  return ()

/-- So many values one after the other. -/
def times {α : Type} : Nat → Reader α → Reader (List α)
  | 0, _ => return []
  | n + 1, reader => do
    let a ← reader
    let as ← times n reader
    return a :: as

/-- The number of bytes left. -/
def remaining : Reader Nat := fun bytes => .ok (bytes.length, bytes)

end Reader

end ServletRoutes.ClassFile
