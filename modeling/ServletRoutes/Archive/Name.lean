import ServletRoutes.Text.Utf8

/-!
# `ServletRoutes.Archive.Name`: the names of entries

The name of an entry is UTF-8 if its record says so. Otherwise it is in code page 437, where every
byte stands for a code point. For ASCII the two do not differ (`nameOf_ascii`).
-/

set_option autoImplicit false

namespace ServletRoutes.Archive

/-- The code points of code page 437 from byte `0x80` on. -/
def codePage : List Nat := [
  0xC7, 0xFC, 0xE9, 0xE2, 0xE4, 0xE0, 0xE5, 0xE7, 0xEA, 0xEB, 0xE8, 0xEF, 0xEE, 0xEC, 0xC4, 0xC5,
  0xC9, 0xE6, 0xC6, 0xF4, 0xF6, 0xF2, 0xFB, 0xF9, 0xFF, 0xD6, 0xDC, 0xA2, 0xA3, 0xA5, 0x20A7, 0x192,
  0xE1, 0xED, 0xF3, 0xFA, 0xF1, 0xD1, 0xAA, 0xBA, 0xBF, 0x2310, 0xAC, 0xBD, 0xBC, 0xA1, 0xAB, 0xBB,
  0x2591, 0x2592, 0x2593, 0x2502, 0x2524, 0x2561, 0x2562, 0x2556, 0x2555, 0x2563, 0x2551, 0x2557,
  0x255D, 0x255C, 0x255B, 0x2510, 0x2514, 0x2534, 0x252C, 0x251C, 0x2500, 0x253C, 0x255E, 0x255F,
  0x255A, 0x2554, 0x2569, 0x2566, 0x2560, 0x2550, 0x256C, 0x2567, 0x2568, 0x2564, 0x2565, 0x2559,
  0x2558, 0x2552, 0x2553, 0x256B, 0x256A, 0x2518, 0x250C, 0x2588, 0x2584, 0x258C, 0x2590, 0x2580,
  0x3B1, 0xDF, 0x393, 0x3C0, 0x3A3, 0x3C3, 0xB5, 0x3C4, 0x3A6, 0x398, 0x3A9, 0x3B4, 0x221E, 0x3C6,
  0x3B5, 0x2229, 0x2261, 0xB1, 0x2265, 0x2264, 0x2320, 0x2321, 0xF7, 0x2248, 0xB0, 0x2219, 0xB7,
  0x221A, 0x207F, 0xB2, 0x25A0, 0xA0]

/-- The code point of a byte in code page 437. -/
def codePagePoint (b : UInt8) : Char :=
  if b.toNat < 0x80 then Char.ofNat b.toNat else Char.ofNat (codePage.getD (b.toNat - 0x80) 0)

/-- The name that bytes hold. Bytes that are no UTF-8, though they should be, are replaced. -/
def nameOf (isUtf8 : Bool) (bytes : Bytes) : Text :=
  if isUtf8 then Text.Utf8.decodeLossy bytes else bytes.map codePagePoint

/-- A name that was encoded is read again. -/
@[simp] theorem nameOf_encode (name : Text) : nameOf true (Text.Utf8.encode name) = name :=
  Text.Utf8.decodeLossy_of_decode (Text.Utf8.decode_encode name)

/-- ASCII is read alike in both ways. -/
theorem nameOf_ascii {bytes : Bytes} (h : ∀ b ∈ bytes, b.toNat < 0x80) (isUtf8 : Bool) :
    nameOf isUtf8 bytes = bytes.map fun b => Char.ofNat b.toNat := by
  cases isUtf8 with
  | false => exact List.map_congr_left fun b hb => if_pos (h b hb)
  | true =>
    refine Text.Utf8.decodeLossy_of_decode ?_
    have hdecode (index : Nat) :
        Text.Utf8.decodeFrom index bytes = .ok (bytes.map fun b => Char.ofNat b.toNat) := by
      induction bytes generalizing index with
      | nil => rfl
      | cons b bytes ih =>
        unfold Text.Utf8.decodeFrom
        rw [if_pos (h b List.mem_cons_self), ih fun b' hb' => h b' (List.mem_cons_of_mem _ hb')]
        rfl
    exact hdecode 0

end ServletRoutes.Archive
