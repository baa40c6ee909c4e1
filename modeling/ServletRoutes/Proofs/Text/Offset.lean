import ServletRoutes.Text.Utf8

/-!
# `ServletRoutes.Proofs.Text.Offset`: byte offsets and the bytes of a text

Offsets count the bytes of the text before them. `length_encode` says that
`byteSize` is the number of bytes that `encode` writes, and
`extract_encode` that the bytes between two such offsets are those of the
text in between.
-/

set_option autoImplicit false

namespace ServletRoutes.Text

/-- A code point is written in as many bytes as its size says. -/
theorem length_encodeChar (c : Char) : (Utf8.encodeChar c).length = c.utf8Size := by
  have hval : c.toNat = c.val.toNat := rfl
  unfold Utf8.encodeChar Char.utf8Size
  simp only [UInt32.le_iff_toNat_le, ← hval]
  split
  next h => simp [show c.toNat ≤ 127 by omega]
  next h =>
    split
    next h' => simp [show ¬ c.toNat ≤ 127 by omega, show c.toNat ≤ 2047 by omega]
    next h' =>
      split
      next h'' =>
        simp [show ¬ c.toNat ≤ 127 by omega, show ¬ c.toNat ≤ 2047 by omega,
          show c.toNat ≤ 65535 by omega]
      next h'' =>
        simp [show ¬ c.toNat ≤ 127 by omega, show ¬ c.toNat ≤ 2047 by omega,
          show ¬ c.toNat ≤ 65535 by omega]

/-- The size of a text is the number of its bytes. -/
theorem length_encode (t : Text) : (Utf8.encode t).length = byteSize t := by
  induction t with
  | nil => rfl
  | cons c t ih =>
    show (Utf8.encodeChar c ++ Utf8.encode t).length = c.utf8Size + byteSize t
    rw [List.length_append, length_encodeChar, ih]

/-- Texts are written one after the other. -/
theorem encode_append (x y : Text) :
    Utf8.encode (x ++ y) = Utf8.encode x ++ Utf8.encode y :=
  List.flatMap_append

/-- The bytes between the offsets of a part are those of the part. -/
theorem extract_encode (x y z : Text) :
    (Utf8.encode (x ++ y ++ z)).extract (byteSize x) (byteSize (x ++ y)) = Utf8.encode y := by
  rw [encode_append, encode_append, List.extract_eq_take_drop, ← length_encode, ← length_encode,
    encode_append, List.length_append, Nat.add_sub_cancel_left, List.append_assoc,
    List.drop_left, List.take_left]

end ServletRoutes.Text
