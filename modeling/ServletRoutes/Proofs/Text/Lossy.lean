import ServletRoutes.Text.Utf8

/-!
# `ServletRoutes.Proofs.Text.Lossy`: decoding with replacements

Decoding with replacements starts again behind each sequence that no code point
has. Such a sequence has a byte at least and lies within the bytes
(`fault_within`), so there are rounds enough (`decodeLossyIn_of_lt`). What stands
in front of it can be decoded (`exists_decodeFrom_take`), so nothing else is
lost. `decodeLossy_of_fault` says both, and with `decodeLossy_of_decode` it says
what any bytes are decoded to.
-/

set_option autoImplicit false

namespace ServletRoutes.Text.Utf8

variable {bytes : Bytes} {fault : Fault}

/-- A fault in what follows is a fault of the whole. -/
theorem map_cons_eq_error {outcome : Except Fault Text} {c : Char}
    (h : outcome.map (c :: ·) = .error fault) : outcome = .error fault := by
  cases outcome with
  | error fault' => exact congrArg _ (Except.error.inj h)
  | ok t => exact nomatch h

/-- What cannot be decoded has a byte at least, and lies within the bytes. -/
theorem fault_within {index : Nat} (h : decodeFrom index bytes = .error fault) :
    index ≤ fault.index ∧ 1 ≤ fault.length ∧ fault.index + fault.length ≤ index + bytes.length := by
  fun_induction decodeFrom index bytes with
  | case1 => exact nomatch h
  -- one to four bytes are a code point, and the fault is in what follows them
  | case2 _ _ _ _ ih | case5 _ _ _ _ _ _ _ _ ih | case9 _ _ _ _ _ _ _ _ _ _ _ ih
  | case15 _ _ _ _ _ _ _ _ _ _ _ _ _ _ ih =>
    have hrest := ih (map_cons_eq_error h)
    simp only [List.length_cons]
    omega
  | _ =>
    obtain rfl := Except.error.inj h
    simp only [List.length_cons]
    omega

/-- What stands in front of a fault can be decoded. -/
theorem exists_decodeFrom_take {index : Nat} (h : decodeFrom index bytes = .error fault) :
    ∃ t, decodeFrom index (bytes.take (fault.index - index)) = .ok t := by
  -- a code point in front of the fault is taken as a whole, with one to four bytes
  fun_induction decodeFrom index bytes with
  | case1 => exact nomatch h
  | case2 index a rest h₁ ih =>
    have hrest := map_cons_eq_error h
    obtain ⟨t, ht⟩ := ih hrest
    have htake : fault.index - index = fault.index - (index + 1) + 1 := by
      have hle := (fault_within hrest).1
      omega
    simp only [htake, List.take_succ_cons]
    unfold decodeFrom
    simp only [h₁, if_true, ht]
    exact ⟨_, rfl⟩
  | case5 index a h₁ h₂ h₃ b rest h₄ ih =>
    have hrest := map_cons_eq_error h
    obtain ⟨t, ht⟩ := ih hrest
    have htake : fault.index - index = fault.index - (index + 2) + 2 := by
      have hle := (fault_within hrest).1
      omega
    simp only [htake, List.take_succ_cons]
    unfold decodeFrom
    simp only [h₁, h₂, h₃, h₄, if_true, if_false, ht]
    exact ⟨_, rfl⟩
  | case9 index a h₁ h₂ h₃ h₄ b h₅ c rest h₆ ih =>
    have hrest := map_cons_eq_error h
    obtain ⟨t, ht⟩ := ih hrest
    have htake : fault.index - index = fault.index - (index + 3) + 3 := by
      have hle := (fault_within hrest).1
      omega
    simp only [htake, List.take_succ_cons]
    unfold decodeFrom
    simp only [h₁, h₂, h₃, h₄, h₅, h₆, if_true, if_false, ht]
    exact ⟨_, rfl⟩
  | case15 index a h₁ h₂ h₃ h₄ h₅ b h₆ c h₇ d rest h₈ ih =>
    have hrest := map_cons_eq_error h
    obtain ⟨t, ht⟩ := ih hrest
    have htake : fault.index - index = fault.index - (index + 4) + 4 := by
      have hle := (fault_within hrest).1
      omega
    simp only [htake, List.take_succ_cons]
    unfold decodeFrom
    simp only [h₁, h₂, h₃, h₄, h₅, h₆, h₇, h₈, if_true, if_false, ht]
    exact ⟨_, rfl⟩
  | _ =>
    obtain rfl := Except.error.inj h
    exact ⟨[], by rw [Nat.sub_self]; rfl⟩

/-- One round more than there are bytes changes nothing. -/
theorem decodeLossyIn_succ {rounds : Nat} (h : bytes.length < rounds) :
    decodeLossyIn (rounds + 1) bytes = decodeLossyIn rounds bytes := by
  induction rounds generalizing bytes with
  | zero => exact absurd h (Nat.not_lt_zero _)
  | succ rounds ih =>
    rw [decodeLossyIn, decodeLossyIn]
    cases hdecode : decode bytes with
    | ok t => rfl
    | error fault =>
      have hwithin := fault_within hdecode
      have hrest := ih (show (bytes.drop (fault.index + fault.length)).length < rounds by
        rw [List.length_drop]
        omega)
      simp only [hrest]

/-- More rounds than bytes change nothing. -/
theorem decodeLossyIn_of_lt {rounds : Nat} (h : bytes.length < rounds) :
    decodeLossyIn rounds bytes = decodeLossy bytes := by
  induction h with
  | refl => rfl
  | step hlt ih => rw [decodeLossyIn_succ hlt, ih]

/-- Where decoding fails, what stands in front of the fault is decoded, the fault is replaced, and decoding
goes on behind it. -/
theorem decodeLossy_of_fault (h : decode bytes = .error fault) :
    ∃ front, decode (bytes.take fault.index) = .ok front ∧
      decodeLossy bytes =
        front ++ '\uFFFD' :: decodeLossy (bytes.drop (fault.index + fault.length)) := by
  obtain ⟨front, hfront⟩ := exists_decodeFrom_take h
  rw [Nat.sub_zero] at hfront
  have hwithin := fault_within h
  have hrest : decodeLossyIn bytes.length (bytes.drop (fault.index + fault.length)) =
      decodeLossy (bytes.drop (fault.index + fault.length)) :=
    decodeLossyIn_of_lt (by rw [List.length_drop]; omega)
  refine ⟨front, hfront, ?_⟩
  rw [← hrest, decodeLossy, decodeLossyIn, h]
  simp only [decode, hfront]
  rfl

end ServletRoutes.Text.Utf8
