import Mathlib.Data.List.Lex
import Mathlib.Tactic.SplitIfs
import ServletRoutes.Text.Utf8

/-!
# `ServletRoutes.Proofs.Text.Order`: names in the order of their bytes

Names are listed by code point. `encode_lt_encode_iff` says that this is the
order of their bytes in UTF-8: the first byte grows with the code point, and
the bytes after equal first ones are the digits of the code points, the
highest first (`encodeChar_append_lt`).
-/

set_option autoImplicit false

namespace ServletRoutes.Text.Utf8

/-- The first byte of a code point. -/
def lead (n : Nat) : Nat :=
  if n < 0x80 then n else if n < 0x800 then 0xC0 + n / 0x40
  else if n < 0x10000 then 0xE0 + n / 0x1000 else 0xF0 + n / 0x40000

/-- The bytes after the first one. -/
def trail (n : Nat) : Bytes :=
  if n < 0x80 then [] else if n < 0x800 then [UInt8.ofNat (0x80 + n % 0x40)]
  else if n < 0x10000 then [UInt8.ofNat (0x80 + n / 0x40 % 0x40), UInt8.ofNat (0x80 + n % 0x40)]
  else
    [UInt8.ofNat (0x80 + n / 0x1000 % 0x40), UInt8.ofNat (0x80 + n / 0x40 % 0x40),
      UInt8.ofNat (0x80 + n % 0x40)]

/-- A code point is its first byte and those after it. -/
theorem encodeChar_eq (c : Char) : encodeChar c = UInt8.ofNat (lead c.toNat) :: trail c.toNat := by
  unfold encodeChar lead trail
  simp only
  split
  · rfl
  · split
    · rfl
    · split <;> rfl

/-- First bytes grow with the code points. -/
theorem lead_le_lead {m n : Nat} (h : m < n) : lead m ≤ lead n := by
  unfold lead
  split_ifs <;> omega

/-- The first byte of a code point is a byte. -/
theorem lead_lt {n : Nat} (h : n < 0x110000) : lead n < 256 := by
  unfold lead
  split_ifs <;> omega

/-- Bytes come first when their first one is smaller, or the same and the others come first. -/
theorem ofNat_cons_lt_iff {i j : Nat} {x y : Bytes} (hi : i < 256) (hj : j < 256) :
    UInt8.ofNat i :: x < UInt8.ofNat j :: y ↔ i < j ∨ (i = j ∧ x < y) := by
  rw [List.cons_lt_cons_iff, UInt8.lt_iff_toNat_lt, ← UInt8.toNat_inj, UInt8.toNat_ofNat',
    UInt8.toNat_ofNat', Nat.mod_eq_of_lt hi, Nat.mod_eq_of_lt hj]

/-- The bytes after equal first ones are the remaining digits. -/
theorem trail_append_lt {m n : Nat} (h : m < n) (hlead : lead m = lead n) (x y : Bytes) :
    trail m ++ x < trail n ++ y := by
  unfold lead at hlead
  unfold trail
  -- different numbers of bytes go with different first bytes
  split_ifs at hlead ⊢ <;> try omega
  · simp only [List.cons_append, List.nil_append]
    rw [ofNat_cons_lt_iff (by omega) (by omega)]
    omega
  · simp only [List.cons_append, List.nil_append]
    rw [ofNat_cons_lt_iff (by omega) (by omega), ofNat_cons_lt_iff (by omega) (by omega)]
    omega
  · simp only [List.cons_append, List.nil_append]
    rw [ofNat_cons_lt_iff (by omega) (by omega), ofNat_cons_lt_iff (by omega) (by omega),
      ofNat_cons_lt_iff (by omega) (by omega)]
    omega

/-- The bytes of a smaller code point come first, whatever follows them. -/
theorem encodeChar_append_lt {a b : Char} (h : a.toNat < b.toNat) (x y : Bytes) :
    encodeChar a ++ x < encodeChar b ++ y := by
  have hb : b.toNat < 0x110000 := by
    have hvalid : b.toNat < 0xD800 ∨ (0xDFFF < b.toNat ∧ b.toNat < 0x110000) := b.valid
    omega
  rw [encodeChar_eq, encodeChar_eq, List.cons_append, List.cons_append,
    ofNat_cons_lt_iff (lead_lt (h.trans hb)) (lead_lt hb)]
  rcases Nat.lt_or_eq_of_le (lead_le_lead h) with hlt | heq
  · exact .inl hlt
  · exact .inr ⟨heq, trail_append_lt h heq x y⟩

/-- Bytes after the same ones are ordered as without them. -/
theorem append_lt_append_iff (bytes x y : Bytes) : bytes ++ x < bytes ++ y ↔ x < y := by
  induction bytes with
  | nil => rfl
  | cons b bytes ih => rw [List.cons_append, List.cons_append, List.cons_lt_cons_self, ih]

/-- Names are ordered like their bytes. -/
theorem encode_lt_encode_iff {s t : Text} : encode s < encode t ↔ s < t := by
  induction s generalizing t with
  | nil =>
    cases t with
    | nil => simp [encode]
    | cons b t =>
      rw [encode, encode, List.flatMap_cons, encodeChar_eq]
      exact iff_of_true (List.nil_lt_cons _ _) (List.nil_lt_cons _ _)
  | cons a s ih =>
    cases t with
    | nil =>
      rw [encode, List.flatMap_cons, encodeChar_eq]
      exact iff_of_false (List.not_lt_nil _) (List.not_lt_nil _)
    | cons b t =>
      show encodeChar a ++ encode s < encodeChar b ++ encode t ↔ _
      rw [List.cons_lt_cons_iff, ← ih, Char.lt_def, UInt32.lt_iff_toNat_lt]
      -- different code points differ in a byte before either ends, as none is the beginning of
      -- another
      rcases Nat.lt_trichotomy a.toNat b.toNat with hlt | heq | hgt
      · exact iff_of_true (encodeChar_append_lt hlt _ _) (.inl hlt)
      · obtain rfl : a = b := Char.ext (UInt32.toNat_inj.mp heq)
        simp [append_lt_append_iff]
      · refine iff_of_false (List.lt_asymm (encodeChar_append_lt hgt _ _)) ?_
        rintro (hlt | ⟨rfl, -⟩)
        · exact Nat.lt_asymm hlt hgt
        · exact Nat.lt_irrefl _ hgt

end ServletRoutes.Text.Utf8
