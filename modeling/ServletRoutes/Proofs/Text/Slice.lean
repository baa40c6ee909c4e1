import Mathlib.Data.List.Infix
import ServletRoutes.Proofs.Text.Occurrence
import ServletRoutes.Proofs.Text.Offset
import ServletRoutes.Proofs.Text.Order
import ServletRoutes.Text.Slice

/-!
# `ServletRoutes.Proofs.Text.Slice`: a search among bytes finds code points

In UTF-8 the first byte of a code point never continues another one. So the
bytes of one text stand among the bytes of another only where the text itself
stands: a search for them ends at a boundary, and slices at such offsets exist.

* `find?_eq_some_iff` / `find?_eq_none_iff`: a search gives the first place.
* `find?_encode`: it is the place that `Text.cut?` finds, by its offset.
* `isBoundary_encode` / `slice?_encode`: offsets of the parts of a text are
  boundaries, and the slices between them are the parts.
-/

set_option autoImplicit false

namespace ServletRoutes.Text.Utf8

variable {needle bytes rest : Bytes} {s t : Text} {offset start : Nat}

/-! ### First places -/

/-- The needle stands at the offset. -/
def StandsAt (needle bytes : Bytes) (offset : Nat) : Prop := needle <+: bytes.drop offset

/-- The first place at the offset `start` or behind it at which the needle stands. -/
structure FirstFrom (start : Nat) (needle bytes : Bytes) (offset : Nat) : Prop where
  le : start ≤ offset
  stands : StandsAt needle bytes offset
  first : ∀ k, start ≤ k → k < offset → ¬ StandsAt needle bytes k

/-- Nothing but an empty needle stands behind the end. -/
theorem not_standsAt_nil (hne : needle ≠ []) : ¬ StandsAt needle [] offset := by
  rw [StandsAt, List.drop_nil, List.prefix_nil]
  exact hne

/-- A search comes to nothing exactly when the needle stands nowhere. -/
theorem find?_eq_none_iff (hne : needle ≠ []) :
    find? needle bytes = none ↔ ∀ k, ¬ StandsAt needle bytes k := by
  induction bytes with
  | nil =>
    rw [find?, if_neg hne]
    exact iff_of_true rfl fun k => not_standsAt_nil hne
  | cons b bytes ih =>
    rw [find?]
    split
    next hfront => exact iff_of_false (by simp) fun hnone => hnone 0 hfront
    next hfront =>
      rw [Option.map_eq_none_iff, ih]
      -- the places behind the first byte are those without it
      constructor
      · intro hnone k
        cases k with
        | zero => exact hfront
        | succ k => exact hnone k
      · intro hnone k
        exact hnone (k + 1)

/-- A search gives the first place at which the needle stands. -/
theorem find?_eq_some_iff (hne : needle ≠ []) :
    find? needle bytes = some offset ↔ FirstFrom 0 needle bytes offset := by
  induction bytes generalizing offset with
  | nil =>
    rw [find?, if_neg hne]
    exact iff_of_false (by simp) fun hfirst => not_standsAt_nil hne hfirst.stands
  | cons b bytes ih =>
    rw [find?]
    split
    -- it stands at the front, or it is searched for behind the first byte
    next hfront =>
      rw [Option.some.injEq]
      constructor
      · rintro rfl
        exact ⟨le_rfl, hfront, fun k _ hk => absurd hk (Nat.not_lt_zero k)⟩
      · intro hfirst
        by_contra hne
        exact hfirst.first 0 le_rfl (by omega) hfront
    next hfront =>
      rw [Option.map_eq_some_iff]
      constructor
      · rintro ⟨k, hk, rfl⟩
        obtain ⟨-, hstands, hfirst⟩ := ih.mp hk
        refine ⟨Nat.zero_le _, hstands, fun j _ hj => ?_⟩
        cases j with
        | zero => exact hfront
        | succ j => exact hfirst j (Nat.zero_le j) (by omega)
      · rintro ⟨-, hstands, hfirst⟩
        cases offset with
        | zero => exact absurd hstands hfront
        | succ k =>
          refine ⟨k, ih.mpr ⟨Nat.zero_le k, hstands, fun j _ hj => ?_⟩, rfl⟩
          exact hfirst (j + 1) (Nat.zero_le _) (by omega)

/-- There is only one first place. -/
theorem FirstFrom.unique {k : Nat} (h : FirstFrom start needle bytes offset)
    (h' : FirstFrom start needle bytes k) : offset = k := by
  rcases Nat.lt_trichotomy offset k with hlt | heq | hgt
  · exact absurd h.stands (h'.first offset h.le hlt)
  · exact heq
  · exact absurd h'.stands (h.first k h'.le hgt)

/-- A place behind an offset is a place in what stands there. -/
theorem standsAt_drop (needle bytes : Bytes) (start offset : Nat) :
    StandsAt needle (bytes.drop start) offset ↔ StandsAt needle bytes (start + offset) := by
  rw [StandsAt, StandsAt, List.drop_drop]

/-- The first place behind an offset is the first one in what stands there. -/
theorem firstFrom_drop_iff :
    FirstFrom 0 needle (bytes.drop start) offset ↔ FirstFrom start needle bytes (start + offset) := by
  constructor
  · rintro ⟨-, hstands, hfirst⟩
    refine ⟨Nat.le_add_right start offset, (standsAt_drop ..).mp hstands, fun k hk hlt => ?_⟩
    obtain ⟨j, rfl⟩ := Nat.exists_eq_add_of_le hk
    exact fun h => hfirst j (Nat.zero_le j) (by omega) ((standsAt_drop ..).mpr h)
  · rintro ⟨-, hstands, hfirst⟩
    refine ⟨Nat.zero_le offset, (standsAt_drop ..).mpr hstands, fun k _ hlt h => ?_⟩
    exact hfirst (start + k) (Nat.le_add_right start k) (by omega) ((standsAt_drop ..).mp h)

/-! ### Code points among bytes -/

/-- The first byte of a code point continues none. -/
theorem not_continues_lead (c : Char) : continues (UInt8.ofNat (lead c.toNat)) = false := by
  have hlt : lead c.toNat < 256 := lead_lt (by
    have hvalid : c.toNat < 0xD800 ∨ (0xDFFF < c.toNat ∧ c.toNat < 0x110000) := c.valid
    omega)
  have hlead : lead c.toNat < 0x80 ∨ 0xC0 ≤ lead c.toNat := by
    unfold lead
    split_ifs <;> omega
  simp only [continues, UInt8.toNat_ofNat', Nat.mod_eq_of_lt hlt, Bool.and_eq_false_iff,
    decide_eq_false_iff_not]
  omega

/-- The other bytes of a code point continue it. -/
theorem continues_of_mem_trail {n : Nat} {b : UInt8} (h : b ∈ trail n) : continues b = true := by
  have hdigit (m : Nat) : continues (UInt8.ofNat (0x80 + m % 0x40)) = true := by
    simp only [continues, UInt8.toNat_ofNat', Bool.and_eq_true, decide_eq_true_eq]
    omega
  unfold trail at h
  split_ifs at h
  · simp at h
  all_goals
    simp only [List.mem_cons, List.not_mem_nil, or_false] at h
    rcases h with rfl | rfl | rfl <;> exact hdigit _

/-- Bytes that begin with the same code point go on in the same way. -/
theorem encodeChar_append_inj {a b : Char} {x y : Bytes} (h : encodeChar a ++ x = encodeChar b ++ y) :
    a = b ∧ x = y := by
  -- different code points have bytes in different order
  rcases Nat.lt_trichotomy a.toNat b.toNat with hlt | heq | hgt
  · have hbefore := encodeChar_append_lt hlt x y
    rw [h] at hbefore
    exact absurd hbefore (List.lt_irrefl _)
  · obtain rfl : a = b := Char.ext (UInt32.toNat_inj.mp heq)
    exact ⟨rfl, List.append_cancel_left h⟩
  · have hbefore := encodeChar_append_lt hgt y x
    rw [h] at hbefore
    exact absurd hbefore (List.lt_irrefl _)

/-- The bytes of a code point come before those of the rest. -/
theorem encode_cons (c : Char) (t : Text) : encode (c :: t) = encodeChar c ++ encode t :=
  List.flatMap_cons

/-- Bytes of texts begin in the same way exactly when the texts do. -/
theorem encode_prefix_iff : encode s <+: encode t ↔ s <+: t := by
  constructor
  · intro h
    induction s generalizing t with
    | nil => exact List.nil_prefix
    | cons a s ih =>
      cases t with
      | nil =>
        rw [encode_cons, encodeChar_eq] at h
        exact absurd (List.prefix_nil.mp h) (by simp)
      | cons b t =>
        obtain ⟨rest, hrest⟩ := h
        rw [encode_cons, encode_cons, List.append_assoc] at hrest
        obtain ⟨hfirst, hothers⟩ := encodeChar_append_inj hrest
        exact List.cons_prefix_cons.mpr ⟨hfirst, ih ⟨rest, hothers⟩⟩
  · rintro ⟨rest, rfl⟩
    rw [encode_append]
    exact List.prefix_append _ _

/-- A text that is not empty has bytes, and the first one continues no code point. -/
theorem exists_encode_eq_cons (hne : s ≠ []) :
    ∃ b rest, encode s = b :: rest ∧ continues b = false := by
  cases s with
  | nil => exact absurd rfl hne
  | cons c s =>
    refine ⟨UInt8.ofNat (lead c.toNat), trail c.toNat ++ encode s, ?_, not_continues_lead c⟩
    rw [encode_cons, encodeChar_eq, List.cons_append]

theorem encode_ne_nil (hne : s ≠ []) : encode s ≠ [] := by
  obtain ⟨b, rest, heq, -⟩ := exists_encode_eq_cons hne
  rw [heq]
  exact List.cons_ne_nil b rest

/-- A search for a text passes over bytes that continue a code point. -/
theorem find?_append_of_continues (hne : s ≠ []) (hbytes : ∀ b ∈ bytes, continues b = true)
    (rest : Bytes) :
    find? (encode s) (bytes ++ rest) = (find? (encode s) rest).map (· + bytes.length) := by
  induction bytes with
  | nil => simp
  | cons b bytes ih =>
    rw [List.forall_mem_cons] at hbytes
    have hfront : ¬ encode s <+: b :: (bytes ++ rest) := by
      obtain ⟨c, others, heq, hc⟩ := exists_encode_eq_cons hne
      rw [heq, List.cons_prefix_cons]
      rintro ⟨rfl, -⟩
      rw [hbytes.1] at hc
      exact absurd hc (by decide)
    rw [List.cons_append, find?, if_neg hfront, ih hbytes.2, Option.map_map]
    rfl

/-- Among the bytes of a text a search finds the first occurrence of another one, at the offset of what
stands before it. -/
theorem find?_encode (s t : Text) :
    find? (encode s) (encode t) = (cut? s t).map fun parts => byteSize parts.1 := by
  by_cases hne : s = []
  · subst hne
    -- nothing stands in front of every text
    have hfront (bytes : Bytes) : find? [] bytes = some 0 := by cases bytes <;> rfl
    cases t <;> exact hfront _
  induction t with
  | nil =>
    show find? (encode s) [] = _
    rw [find?, if_neg (encode_ne_nil hne), cut?, if_neg hne]
    rfl
  | cons c t ih =>
    have hsize : (encodeChar c).length = 1 + (trail c.toNat).length := by
      rw [encodeChar_eq, List.length_cons, Nat.add_comm]
    rw [length_encodeChar] at hsize
    have hfront : encode s <+: UInt8.ofNat (lead c.toNat) :: (trail c.toNat ++ encode t) ↔
        s <+: c :: t := by
      rw [← encode_prefix_iff, encode_cons, encodeChar_eq, List.cons_append]
    rw [encode_cons, encodeChar_eq, List.cons_append, find?, cut?]
    split
    next h =>
      obtain ⟨after, hafter⟩ := hfront.mp h
      rw [← hafter, stripStart?_append]
      rfl
    next h =>
      rw [stripStart?_eq_none_iff.mpr (hfront.not.mp h),
        find?_append_of_continues hne fun b hb => continues_of_mem_trail hb, ih]
      cases cut? s t with
      | none => rfl
      | some parts =>
        show some (byteSize parts.1 + (trail c.toNat).length + 1) =
          some (c.utf8Size + byteSize parts.1)
        rw [hsize]
        congr 1
        omega

/-! ### Slices -/

/-- A slice up to an offset is what stands in front of it. -/
theorem eq_take_of_slice? (h : slice? bytes 0 offset = some rest) : rest = bytes.take offset := by
  rw [slice?] at h
  split at h
  · rw [← Option.some.inj h, List.extract_eq_take_drop, List.drop_zero, Nat.sub_zero]
  · simp at h

/-- A slice from an offset to the end is what stands behind it. -/
theorem eq_drop_of_slice? (h : slice? bytes offset bytes.length = some rest) :
    rest = bytes.drop offset := by
  rw [slice?] at h
  split at h
  · rw [← Option.some.inj h, List.extract_eq_take_drop, ← List.length_drop, List.take_length]
  · simp at h

/-- The offset of what stands behind a part of a text is a boundary. -/
theorem isBoundary_encode (x y : Text) : isBoundary (encode (x ++ y)) (byteSize x) = true := by
  rw [isBoundary, ← length_encode x, encode_append]
  cases y with
  | nil => simp [encode]
  | cons c y =>
    obtain ⟨b, rest, heq, hb⟩ := exists_encode_eq_cons (List.cons_ne_nil c y)
    simp [heq, hb]

/-- The slice between the offsets of a part of a text is the part. -/
theorem slice?_encode (x y z : Text) :
    slice? (encode (x ++ y ++ z)) (byteSize x) (byteSize (x ++ y)) = some (encode y) := by
  have hstart : isBoundary (encode (x ++ y ++ z)) (byteSize x) = true := by
    rw [List.append_assoc]
    exact isBoundary_encode x (y ++ z)
  have hstop : isBoundary (encode (x ++ y ++ z)) (byteSize (x ++ y)) = true :=
    isBoundary_encode (x ++ y) z
  rw [slice?, hstart, hstop, extract_encode, if_pos (by simp)]

/-- The slice up to the offset of what stands behind a text is the text. -/
theorem slice?_encode_front (x y : Text) :
    slice? (encode (x ++ y)) 0 (byteSize x) = some (encode x) := by
  simpa using slice?_encode [] x y

/-- The slice from the offset of what stands behind a text is what stands there. -/
theorem slice?_encode_back (x y : Text) :
    slice? (encode (x ++ y)) (byteSize x) (encode (x ++ y)).length = some (encode y) := by
  rw [length_encode]
  simpa using slice?_encode x y []

end ServletRoutes.Text.Utf8
