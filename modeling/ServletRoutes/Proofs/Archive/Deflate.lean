import ServletRoutes.Archive.Deflate

/-!
# `ServletRoutes.Proofs.Archive.Deflate`: inflating undoes deflating

Inflating is reading: whatever a compressor has written, the bits lead through
blocks, codes and items to the bytes. `inflate_deflate` says that the bytes that
are written with the fixed code are read back, all of them and nothing else.

The bits of packed bytes are those that were packed, with some behind them
(`bitsOf_pack`). In the fixed code each byte is read from its row of bits
(`item_row`), which goes on to the whole block by induction on the bytes
(`addItems_rows`). What stands behind the block does not matter.
-/

set_option autoImplicit false

namespace ServletRoutes.Archive

namespace Deflated

/-! ### Bits and bytes -/

/-- A number has the bits that it is made of. -/
theorem testBit_natOf (bits : List Bool) (i : Nat) : (natOf bits).testBit i = bits.getD i false := by
  induction bits generalizing i with
  | nil => exact Nat.zero_testBit i
  | cons b bits ih =>
    -- the first bit is the remainder of the halves
    have hb : b.toNat < 2 := Bool.toNat_lt b
    cases i with
    | zero =>
      have hfirst : natOf (b :: bits) % 2 = b.toNat := by
        rw [natOf]
        omega
      rw [Nat.testBit_zero, hfirst, List.getD_cons_zero]
      cases b <;> rfl
    | succ i =>
      have hhalf : natOf (b :: bits) / 2 = natOf bits := by
        rw [natOf]
        omega
      rw [Nat.testBit_succ, hhalf, ih, List.getD_cons_succ]

/-- The bits of a byte that up to eight bits make are these bits, and zeros behind them. -/
theorem bitsOf_natOf {bits : List Bool} (h : bits.length ≤ 8) (rest : Bytes) :
    bitsOf (UInt8.ofNat (natOf bits) :: rest) =
      bits ++ List.replicate (8 - bits.length) false ++ bitsOf rest := by
  have hlt : natOf bits < 256 := by
    refine Nat.lt_pow_two_of_testBit (n := 8) (natOf bits) fun i hi => ?_
    rw [testBit_natOf, List.getD_eq_getElem?_getD, List.getElem?_eq_none (Nat.le_trans h hi),
      Option.getD_none]
  have hbyte : (UInt8.ofNat (natOf bits)).toNat = natOf bits := by
    rw [UInt8.toNat_ofNat', Nat.mod_eq_of_lt hlt]
  have hbits : (List.range 8).map (fun n => (natOf bits).testBit n) =
      bits ++ List.replicate (8 - bits.length) false := by
    apply List.ext_getElem
    · simp
      omega
    · intro i _ _
      simp only [List.getElem_map, List.getElem_range, testBit_natOf, List.getElem_append,
        List.getElem_replicate]
      split <;> simp_all
  rw [bitsOf, List.flatMap_cons, hbyte, hbits]
  rfl

/-- The bits of packed bytes are those that were packed, with some behind them. -/
theorem bitsOf_pack {count : Nat} {bits : List Bool} (h : bits.length ≤ 8 * count) :
    ∃ behind, bitsOf (pack count bits) = bits ++ behind := by
  induction count generalizing bits with
  | zero =>
    obtain rfl : bits = [] := List.length_eq_zero_iff.mp (by omega)
    exact ⟨[], rfl⟩
  | succ count ih =>
    have hrest : (bits.drop 8).length ≤ 8 * count := by
      rw [List.length_drop]
      omega
    obtain ⟨behind, hbehind⟩ := ih hrest
    rw [pack, bitsOf_natOf (List.length_take_le 8 bits), hbehind]
    by_cases hfull : 8 ≤ bits.length
    · refine ⟨behind, ?_⟩
      rw [List.length_take_of_le hfull, Nat.sub_self, List.replicate_zero, List.append_nil,
        ← List.append_assoc, List.take_append_drop]
    · -- the last byte is filled up, and nothing is left for another one
      have hle : bits.length ≤ 8 := by omega
      rw [List.take_of_length_le hle, List.drop_eq_nil_of_le hle, List.nil_append, List.append_assoc]
      exact ⟨_, rfl⟩

/-! ### The fixed code -/

/-- The rows of bits in the fixed code lead to their symbols. -/
theorem after_row : ∀ n ≤ endSymbol, fixedLiterals.after (row n) = .symbol n := by decide +kernel

/-- A symbol that is a byte or the end is read from its row of bits. -/
theorem next_row {n : Nat} (h : n ≤ endSymbol) (rest : List Bool) :
    fixedLiterals.next (row n ++ rest) = .ok (n, rest) :=
  Code.next_append (after_row n h) rest

/-- A byte is read from its row of bits. -/
theorem item_row (b : UInt8) (rest : List Bool) :
    item fixedCodes (row b.toNat ++ rest) = .ok (.byte b, rest) := by
  have hlt : b.toNat < endSymbol := b.toNat_lt
  have hnext : fixedCodes.literals.next (row b.toNat ++ rest) = .ok (b.toNat, rest) :=
    next_row (Nat.le_of_lt hlt) rest
  simp only [item, bind, StateT.bind, Except.bind, hnext, if_pos hlt, UInt8.ofNat_toNat]
  rfl

/-- The end of a block is read from its row of bits. -/
theorem item_end (rest : List Bool) : item fixedCodes (row endSymbol ++ rest) = .ok (.done, rest) := by
  have hnext : fixedCodes.literals.next (row endSymbol ++ rest) = .ok (endSymbol, rest) :=
    next_row (Nat.le_refl _) rest
  simp only [item, bind, StateT.bind, Except.bind, hnext, Nat.lt_irrefl, if_false, if_true]
  rfl

/-- A block gives the bytes whose rows of bits stand in it. -/
theorem addItems_rows (bytes : Bytes) {rounds : Nat} (h : bytes.length < rounds) (rest : List Bool)
    (out : Bytes) :
    addItems fixedCodes rounds (bytes.flatMap (fun b => row b.toNat) ++ (row endSymbol ++ rest)) out =
      (bytes.reverse ++ out, .ok rest) := by
  induction bytes generalizing rounds out with
  | nil =>
    obtain ⟨rounds, rfl⟩ := Nat.exists_eq_succ_of_ne_zero (Nat.ne_of_gt h)
    rw [List.flatMap_nil, List.nil_append, addItems, item_end]
    rfl
  | cons b bytes ih =>
    obtain ⟨rounds, rfl⟩ := Nat.exists_eq_succ_of_ne_zero (Nat.ne_of_gt (Nat.zero_lt_of_lt h))
    -- each byte takes one round
    rw [List.flatMap_cons, List.append_assoc, addItems, item_row]
    simp only [ih (Nat.lt_of_succ_lt_succ h), List.reverse_cons, List.append_assoc,
      List.singleton_append]

/-- No row of bits is empty. -/
theorem length_le_length_rows (bytes : Bytes) :
    bytes.length ≤ (bytes.flatMap fun b => row b.toNat).length := by
  induction bytes with
  | nil => exact Nat.le_refl _
  | cons b bytes ih =>
    have hrow : 1 ≤ (row b.toNat).length := by
      simp only [row, bitsDown]
      split
      · simp
      · split <;> simp
    rw [List.flatMap_cons, List.length_append, List.length_cons]
    omega

/-- The last block is read to its end. -/
theorem addBlocks_blockBits (bytes : Bytes) {rounds : Nat} (h : rounds ≠ 0) (behind : List Bool) :
    addBlocks rounds (blockBits bytes ++ behind) [] = (bytes.reverse, .ok behind) := by
  obtain ⟨rounds, rfl⟩ := Nat.exists_eq_succ_of_ne_zero h
  have hbits : blockBits bytes ++ behind = [true, true, false] ++
      (bytes.flatMap (fun b => row b.toNat) ++ (row endSymbol ++ behind)) := by
    simp only [blockBits, List.append_assoc]
  have hrounds : bytes.length <
      (bytes.flatMap (fun b => row b.toNat) ++ (row endSymbol ++ behind)).length := by
    have hend : (row endSymbol).length = 7 := rfl
    have hrows := length_le_length_rows bytes
    rw [List.length_append, List.length_append]
    omega
  have hstart (bits : List Bool) : blockStart ([true, true, false] ++ bits) = .ok ((true, 1), bits) :=
    rfl
  have hblock := addItems_rows bytes hrounds behind []
  simp only [hbits, addBlocks, hstart, addBlock, hblock, List.append_nil, if_true]

end Deflated

/-- Inflating undoes deflating. -/
theorem inflate_deflate (bytes : Bytes) : inflate (deflate bytes) = some bytes := by
  have hroom : (Deflated.blockBits bytes).length ≤ 8 * (((Deflated.blockBits bytes).length + 7) / 8) := by
    omega
  obtain ⟨behind, hbits⟩ := Deflated.bitsOf_pack hroom
  have hrounds : (Deflated.blockBits bytes ++ behind).length ≠ 0 := by
    simp [Deflated.blockBits]
  rw [inflate, deflate, hbits]
  simp only [Deflated.addBlocks_blockBits bytes hrounds, List.reverse_reverse]

end ServletRoutes.Archive
