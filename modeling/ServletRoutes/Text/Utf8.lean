import ServletRoutes.Text.Basic

/-!
# `ServletRoutes.Text.Utf8`: text as bytes

`encode` writes each code point in one to four bytes, `decode` reads them back. Decoding fails at
the first byte sequence that no code point has, and tells where it begins and how many of its
bytes could still have begun one. `decode_encode` says that reading undoes writing. `decodeLossy`
goes on after a failure, with a replacement character for what it leaves out.
-/

set_option autoImplicit false

namespace ServletRoutes.Text.Utf8

/-- Where decoding fails. -/
structure Fault where
  /-- The offset of the first byte of the sequence. -/
  index : Nat
  /-- The number of its bytes that could begin a code point, at least one. -/
  length : Nat
deriving DecidableEq

/-- The bytes of one code point. -/
def encodeChar (c : Char) : Bytes :=
  let n := c.toNat
  if n < 0x80 then [UInt8.ofNat n]
  else if n < 0x800 then [UInt8.ofNat (0xC0 + n / 0x40), UInt8.ofNat (0x80 + n % 0x40)]
  else if n < 0x10000 then
    [UInt8.ofNat (0xE0 + n / 0x1000), UInt8.ofNat (0x80 + n / 0x40 % 0x40),
      UInt8.ofNat (0x80 + n % 0x40)]
  else
    [UInt8.ofNat (0xF0 + n / 0x40000), UInt8.ofNat (0x80 + n / 0x1000 % 0x40),
      UInt8.ofNat (0x80 + n / 0x40 % 0x40), UInt8.ofNat (0x80 + n % 0x40)]

/-- The bytes of a text. -/
def encode (t : Text) : Bytes := t.flatMap encodeChar

/-- A byte that continues a code point. -/
def continues (b : UInt8) : Bool := 0x80 ≤ b.toNat && b.toNat < 0xC0

/-- The second byte may follow a first one of three bytes: no shorter form, no surrogate. -/
def followsThree (a b : UInt8) : Bool :=
  continues b && (a.toNat ≠ 0xE0 || 0xA0 ≤ b.toNat) && (a.toNat ≠ 0xED || b.toNat < 0xA0)

/-- The second byte may follow a first one of four bytes: no shorter form, not too large. -/
def followsFour (a b : UInt8) : Bool :=
  continues b && (a.toNat ≠ 0xF0 || 0x90 ≤ b.toNat) && (a.toNat ≠ 0xF4 || b.toNat < 0x90)

/-- Decodes bytes that begin at an offset. -/
def decodeFrom (index : Nat) : Bytes → Except Fault Text
  | [] => .ok []
  | a :: rest =>
    if a.toNat < 0x80 then (decodeFrom (index + 1) rest).map (Char.ofNat a.toNat :: ·)
    else if a.toNat < 0xC2 then .error ⟨index, 1⟩
    else if a.toNat < 0xE0 then
      match rest with
      | [] => .error ⟨index, 1⟩
      | b :: rest =>
        if continues b then
          (decodeFrom (index + 2) rest).map
            (Char.ofNat ((a.toNat - 0xC0) * 0x40 + (b.toNat - 0x80)) :: ·)
        else .error ⟨index, 1⟩
    else if a.toNat < 0xF0 then
      match rest with
      | [] => .error ⟨index, 1⟩
      | b :: rest =>
        if followsThree a b then
          match rest with
          | [] => .error ⟨index, 2⟩
          | c :: rest =>
            if continues c then
              (decodeFrom (index + 3) rest).map
                (Char.ofNat ((a.toNat - 0xE0) * 0x1000 + (b.toNat - 0x80) * 0x40 +
                  (c.toNat - 0x80)) :: ·)
            else .error ⟨index, 2⟩
        else .error ⟨index, 1⟩
    else if a.toNat < 0xF5 then
      match rest with
      | [] => .error ⟨index, 1⟩
      | b :: rest =>
        if followsFour a b then
          match rest with
          | [] => .error ⟨index, 2⟩
          | c :: rest =>
            if continues c then
              match rest with
              | [] => .error ⟨index, 3⟩
              | d :: rest =>
                if continues d then
                  (decodeFrom (index + 4) rest).map
                    (Char.ofNat ((a.toNat - 0xF0) * 0x40000 + (b.toNat - 0x80) * 0x1000 +
                      (c.toNat - 0x80) * 0x40 + (d.toNat - 0x80)) :: ·)
                else .error ⟨index, 3⟩
            else .error ⟨index, 2⟩
        else .error ⟨index, 1⟩
    else .error ⟨index, 1⟩

/-- Decodes bytes. -/
def decode (bytes : Bytes) : Except Fault Text := decodeFrom 0 bytes

/-- Decodes bytes with a replacement character for each sequence that no code point has. Every round
takes such a sequence, so there are no more rounds than bytes. -/
def decodeLossyIn : Nat → Bytes → Text
  | 0, _ => []
  | rounds + 1, bytes =>
    match decode bytes with
    | .ok t => t
    | .error fault =>
      let front := (decode (bytes.take fault.index)).toOption.getD []
      front ++ '\uFFFD' :: decodeLossyIn rounds (bytes.drop (fault.index + fault.length))

/-- Decodes any bytes. -/
def decodeLossy (bytes : Bytes) : Text := decodeLossyIn (bytes.length + 1) bytes

/-! ### Reading undoes writing -/

/-- A number below 256 is that of a byte. -/
private theorem toNat_ofNat_of_lt {n : Nat} (h : n < 256) : (UInt8.ofNat n).toNat = n := by
  simp only [UInt8.toNat_ofNat']
  exact Nat.mod_eq_of_lt h

/-- Code points are below `0x110000` and no surrogates. -/
private theorem toNat_valid (c : Char) :
    c.toNat < 0xD800 ∨ (0xDFFF < c.toNat ∧ c.toNat < 0x110000) := c.valid

/-- One encoded code point at the beginning is read as such. -/
theorem decodeFrom_encodeChar (c : Char) (index : Nat) (rest : Bytes) :
    decodeFrom index (encodeChar c ++ rest) =
      (decodeFrom (index + (encodeChar c).length) rest).map (c :: ·) := by
  have hv := toNat_valid c
  have hc := Char.ofNat_toNat c
  simp only [encodeChar]
  generalize c.toNat = n at hv hc
  by_cases h1 : n < 0x80
  · have e := toNat_ofNat_of_lt (show n < 256 by omega)
    simp only [h1, if_true, List.cons_append, List.nil_append, List.length_cons, List.length_nil,
      Nat.zero_add]
    conv => lhs; unfold decodeFrom
    simp only [e, h1, if_true, hc]
  by_cases h2 : n < 0x800
  · have ea := toNat_ofNat_of_lt (show 0xC0 + n / 0x40 < 256 by omega)
    have eb := toNat_ofNat_of_lt (show 0x80 + n % 0x40 < 256 by omega)
    have hn : (0xC0 + n / 0x40 - 0xC0) * 0x40 + (0x80 + n % 0x40 - 0x80) = n := by omega
    simp only [h1, h2, if_true, if_false, List.cons_append, List.nil_append, List.length_cons,
      List.length_nil, Nat.zero_add]
    conv => lhs; unfold decodeFrom
    simp only [ea, eb, continues, hn, hc]
    rw [if_neg (by omega), if_neg (by omega), if_pos (by omega), if_pos]
    simp only [Bool.and_eq_true, decide_eq_true_eq]
    omega
  by_cases h3 : n < 0x10000
  · have ea := toNat_ofNat_of_lt (show 0xE0 + n / 0x1000 < 256 by omega)
    have eb := toNat_ofNat_of_lt (show 0x80 + n / 0x40 % 0x40 < 256 by omega)
    have ec := toNat_ofNat_of_lt (show 0x80 + n % 0x40 < 256 by omega)
    have hn : (0xE0 + n / 0x1000 - 0xE0) * 0x1000 + (0x80 + n / 0x40 % 0x40 - 0x80) * 0x40 +
        (0x80 + n % 0x40 - 0x80) = n := by omega
    simp only [h1, h2, h3, if_true, if_false, List.cons_append, List.nil_append,
      List.length_cons, List.length_nil, Nat.zero_add]
    conv => lhs; unfold decodeFrom
    simp only [ea, eb, ec, continues, followsThree, hn, hc]
    rw [if_neg (by omega), if_neg (by omega), if_neg (by omega), if_pos (by omega), if_pos, if_pos]
    · simp only [Bool.and_eq_true, decide_eq_true_eq]
      omega
    · simp only [Bool.and_eq_true, Bool.or_eq_true, decide_eq_true_eq]
      omega
  · have ea := toNat_ofNat_of_lt (show 0xF0 + n / 0x40000 < 256 by omega)
    have eb := toNat_ofNat_of_lt (show 0x80 + n / 0x1000 % 0x40 < 256 by omega)
    have ec := toNat_ofNat_of_lt (show 0x80 + n / 0x40 % 0x40 < 256 by omega)
    have ed := toNat_ofNat_of_lt (show 0x80 + n % 0x40 < 256 by omega)
    have hn : (0xF0 + n / 0x40000 - 0xF0) * 0x40000 + (0x80 + n / 0x1000 % 0x40 - 0x80) * 0x1000 +
        (0x80 + n / 0x40 % 0x40 - 0x80) * 0x40 + (0x80 + n % 0x40 - 0x80) = n := by omega
    simp only [h1, h2, h3, if_false, List.cons_append, List.nil_append, List.length_cons,
      List.length_nil, Nat.zero_add]
    conv => lhs; unfold decodeFrom
    simp only [ea, eb, ec, ed, continues, followsFour, hn, hc]
    rw [if_neg (by omega), if_neg (by omega), if_neg (by omega), if_neg (by omega),
      if_pos (by omega), if_pos, if_pos, if_pos]
    · simp only [Bool.and_eq_true, decide_eq_true_eq]
      omega
    · simp only [Bool.and_eq_true, decide_eq_true_eq]
      omega
    · simp only [Bool.and_eq_true, Bool.or_eq_true, decide_eq_true_eq]
      omega

/-- Wherever an encoded text begins, it is read. -/
private theorem decodeFrom_encode (t : Text) (index : Nat) : decodeFrom index (encode t) = .ok t := by
  induction t generalizing index with
  | nil => rfl
  | cons c t ih =>
    rw [encode, List.flatMap_cons, decodeFrom_encodeChar]
    show (decodeFrom _ (encode t)).map (c :: ·) = _
    rw [ih]
    rfl

/-- Reading undoes writing. -/
theorem decode_encode (t : Text) : decode (encode t) = .ok t := decodeFrom_encode t 0

/-- Bytes that can be decoded hold nothing to be replaced. -/
theorem decodeLossy_of_decode {bytes : Bytes} {t : Text} (h : decode bytes = .ok t) :
    decodeLossy bytes = t := by
  rw [decodeLossy, decodeLossyIn, h]

/-- A sequence that breaks off and a byte that begins none are replaced one by one. -/
example : decodeLossy [0x61, 0xE2, 0x82, 0x62, 0xFF, 0xC3] = "a\uFFFDb\uFFFD\uFFFD".toList := by decide

end ServletRoutes.Text.Utf8
