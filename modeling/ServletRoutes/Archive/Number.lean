import ServletRoutes.Text.Basic

/-!
# `ServletRoutes.Archive.Number`: the numbers of a record

The records of an archive hold numbers in so many bytes, the lowest byte first. `number_bytes`
says that a number that fits is read as it was written.
-/

set_option autoImplicit false

namespace ServletRoutes.Archive

/-- A number in so many bytes; what is above them is dropped. -/
def numberBytes : Nat → Nat → Bytes
  | 0, _ => []
  | size + 1, n => UInt8.ofNat (n % 0x100) :: numberBytes size (n / 0x100)

/-- The number that bytes hold. -/
def number : Bytes → Nat
  | [] => 0
  | b :: bytes => b.toNat + 0x100 * number bytes

/-- The number at an offset. -/
def numberAt (bytes : Bytes) (offset size : Nat) : Nat := number ((bytes.drop offset).take size)

/-- A number takes the bytes that it is given. -/
@[simp] theorem length_numberBytes (size n : Nat) : (numberBytes size n).length = size := by
  induction size generalizing n with
  | zero => rfl
  | succ size ih => simp [numberBytes, ih]

/-- A number that fits its bytes is read back. -/
theorem number_bytes {size n : Nat} (h : n < Nat.pow 0x100 size) :
    number (numberBytes size n) = n := by
  induction size generalizing n with
  | zero =>
    have : n < 1 := h
    simp only [numberBytes, number]
    omega
  | succ size ih =>
    have hn : n / 0x100 < Nat.pow 0x100 size := Nat.div_lt_of_lt_mul (by
      rw [Nat.mul_comm]
      exact h)
    have hb : (UInt8.ofNat (n % 0x100)).toNat = n % 0x100 := by
      rw [UInt8.toNat_ofNat']
      omega
    rw [numberBytes, number, ih hn, hb]
    omega

end ServletRoutes.Archive
