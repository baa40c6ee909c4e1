import ServletRoutes.Archive.Inflate

/-!
# `ServletRoutes.Proofs.Archive.Inflate`: inflating has rounds enough

Inflating goes round by round, and the number of rounds is only there to show
that it ends. `Gives` says how many bits a reader takes. An item takes one at
least, because no code of a block has a symbol for nothing (`Code.Forks`), and a
block takes three. So where there are as many rounds as bits, more of them
change nothing:

* `addItems_of_le`: for the items of a block, whose codes fork by
  `forks_fixedCodes` and `gives_blockCodes`;
* `addBlocks_of_le`: for all blocks;
* `sizesUpTo_of_le`: for the sizes of a code, which take a round each.
-/

set_option autoImplicit false

namespace ServletRoutes.Archive

/-! ### What readers give and take -/

/-- Where the reader gives a value, the value is right and so many bits at least have been taken. -/
def Gives {α : Type} (reader : BitReader α) (least : Nat) (right : α → Prop) : Prop :=
  ∀ bits a rest, reader bits = .ok (a, rest) → right a ∧ rest.length + least ≤ bits.length

/-- Where the reader gives a value, so many bits at least have been taken. -/
abbrev Takes {α : Type} (reader : BitReader α) (least : Nat) : Prop := Gives reader least fun _ => True

namespace Gives

variable {α β : Type} {reader : BitReader α} {next : α → BitReader β} {n : Nat} {right : α → Prop}
  {right' : β → Prop}

/-- A value is given for nothing. -/
theorem pure {a : α} (h : right a) : Gives (Pure.pure a) 0 right := by
  intro bits b rest hread
  obtain ⟨rfl, rfl⟩ := Prod.mk.inj (Except.ok.inj hread)
  exact ⟨h, Nat.le_refl _⟩

/-- A reader that stops gives nothing. -/
theorem invalid : Gives (BitReader.invalid : BitReader α) n fun _ => False :=
  fun _ _ _ h => nomatch h

/-- What takes some bits takes none at least. -/
theorem weaken (h : Gives reader n right) : Gives reader 0 right :=
  fun bits a rest hread =>
    ⟨(h bits a rest hread).1, Nat.le_trans (Nat.le_add_right _ n) (h bits a rest hread).2⟩

/-- What is read next gives no bits back. -/
theorem bind (h : Gives reader n right) (hnext : ∀ a, right a → Gives (next a) 0 right') :
    Gives (reader >>= next) n right' := by
  intro bits b rest hread
  change (reader bits >>= fun p => next p.1 p.2) = .ok (b, rest) at hread
  cases hfirst : reader bits with
  | error stop =>
    rw [hfirst] at hread
    exact nomatch hread
  | ok first =>
    rw [hfirst] at hread
    obtain ⟨hright, hle⟩ := h bits first.1 first.2 hfirst
    obtain ⟨hright', hle'⟩ := hnext first.1 hright first.2 b rest hread
    exact ⟨hright', by omega⟩

/-- A choice gives what both readers give. -/
theorem ite {p : Prop} [Decidable p] {yes no : BitReader α} (hyes : p → Gives yes n right)
    (hno : ¬p → Gives no n right) : Gives (if p then yes else no) n right := by
  split
  next h => exact hyes h
  next h => exact hno h

/-- Going on only if there is no reason to stop. -/
theorem guarded {p : Prop} [Decidable p] {stopped : Unit → BitReader α} {goesOn : BitReader α}
    (h : ¬p → Gives goesOn n right) :
    Gives (if p then BitReader.invalid >>= stopped else goesOn) n right :=
  ite (fun _ => invalid.bind fun _ hfalse => hfalse.elim) h

end Gives

/-- A number takes its bits. -/
theorem takes_nat (size : Nat) : Takes (BitReader.nat size) size := by
  intro bits n rest h
  refine ⟨trivial, ?_⟩
  induction size generalizing bits n with
  | zero =>
    obtain ⟨-, rfl⟩ := Prod.mk.inj (Except.ok.inj h)
    exact Nat.le_refl _
  | succ size ih =>
    cases bits with
    | nil => exact nomatch h
    | cons b bits =>
      change (BitReader.nat size bits >>= fun p => Pure.pure (b.toNat + 2 * p.1, p.2)) = _ at h
      cases hrest : BitReader.nat size bits with
      | error stop =>
        rw [hrest] at h
        exact nomatch h
      | ok first =>
        rw [hrest] at h
        obtain ⟨-, rfl⟩ := Prod.mk.inj (Except.ok.inj h)
        have hle := ih bits first.1 hrest
        rw [List.length_cons]
        omega

/-! ### Codes -/

namespace Code

/-- No symbol is given for nothing. -/
def Forks : Code → Prop
  | branch _ _ => True
  | unused | symbol _ => False

/-- Reading a symbol gives no bits back. -/
theorem takes_next (code : Code) : Takes code.next 0 := by
  intro bits n rest h
  refine ⟨trivial, ?_⟩
  induction code generalizing bits with
  | unused => exact nomatch h
  | symbol m =>
    obtain ⟨-, rfl⟩ := Prod.mk.inj (Except.ok.inj h)
    exact Nat.le_refl _
  | branch zero one ihZero ihOne =>
    cases bits with
    | nil => exact nomatch h
    | cons b bits =>
      refine Nat.le_succ_of_le ?_
      cases b with
      | false => exact ihZero bits h
      | true => exact ihOne bits h

/-- A symbol of a code that forks takes a bit. -/
theorem Forks.takes_next {code : Code} (h : code.Forks) : Takes code.next 1 := by
  cases code with
  | unused | symbol _ => exact h.elim
  | branch zero one =>
    intro bits n rest hread
    refine ⟨trivial, ?_⟩
    cases bits with
    | nil => exact nomatch hread
    | cons b bits =>
      refine Nat.succ_le_succ ?_
      cases b with
      | false => exact (zero.takes_next bits n rest hread).2
      | true => exact (one.takes_next bits n rest hread).2

/-- A code that forks finds the end of the bits. -/
theorem Forks.next_nil {code : Code} (h : code.Forks) : code.next [] = .error .ended := by
  cases code with
  | unused | symbol _ => exact h.elim
  | branch _ _ => rfl

/-- The rows of bits of a code are those that have a size. -/
theorem mem_inOrder {sizes : List Nat} {size n : Nat} :
    (size, n) ∈ inOrder sizes ↔ sizes[n]? = some size ∧ 1 ≤ size ∧ size ≤ sizeLimit := by
  simp only [inOrder, List.mem_flatMap, List.mem_range, List.mem_filter, List.mem_zipIdx_iff_getElem?,
    decide_eq_true_eq]
  constructor
  · rintro ⟨k, hk, hmem, rfl⟩
    exact ⟨hmem, Nat.le_add_left 1 k, hk⟩
  · rintro ⟨hmem, hpos, hle⟩
    exact ⟨size - 1, by omega, hmem, by omega⟩

/-- A code with a row of bits forks. -/
theorem forks_of_ofSizes? {sizes : List Nat} {code : Code} (h : ofSizes? sizes = some code)
    (hrows : inOrder sizes ≠ []) : code.Forks := by
  obtain ⟨⟨size, n⟩, rows, heq⟩ := List.exists_cons_of_ne_nil hrows
  have hpos : 1 ≤ size := (mem_inOrder.1 (heq ▸ List.mem_cons_self)).2.1
  -- the first row has a bit at least, so the code begins with a branch
  rw [ofSizes?, heq, sizeLimit, grow, if_neg (Nat.ne_of_gt hpos)] at h
  generalize grow 14 (0 + 1) ((size, n) :: rows) = first at h
  obtain ⟨zero, rest⟩ := first
  dsimp only at h
  generalize grow 14 (0 + 1) rest = second at h
  obtain ⟨one, _ | _⟩ := second
  · obtain rfl := Option.some.inj h
    trivial
  · exact nomatch h

end Code

namespace Deflated

open BitReader (nat)

/-- The fixed code for bytes forks. -/
theorem forks_fixedCodes : fixedCodes.literals.Forks := by
  have hcode : Code.ofSizes? fixedSizes = some fixedCodes.literals := by decide +kernel
  have hrows : Code.inOrder fixedSizes ≠ [] := by decide +kernel
  exact Code.forks_of_ofSizes? hcode hrows

/-- A code of a block in which the end of the block has a row of bits forks. -/
theorem forks_of_blockCode? {sizes : List Nat} {code : Code} (h : blockCode? sizes = some code)
    (hend : sizes.getD endSymbol 0 ≠ 0) : code.Forks := by
  rw [blockCode?, Option.filter_eq_some_iff] at h
  obtain ⟨hcode, huse⟩ := h
  refine Code.forks_of_ofSizes? hcode fun hnone => ?_
  rw [Code.ofSizes?, hnone, Code.grow, Option.some.injEq] at hcode
  have hsmall : ∀ size ∈ sizes, size ≤ 1 := by simpa [← hcode, Code.isComplete] using huse
  -- the size of the end is one, so there is a row
  rw [List.getD_eq_getElem?_getD] at hend
  cases hsize : sizes[endSymbol]? with
  | none => exact hend (by rw [hsize]; rfl)
  | some size =>
    rw [hsize, Option.getD_some] at hend
    have hle : size ≤ 1 := hsmall size (List.mem_of_getElem? hsize)
    have hrow : (size, endSymbol) ∈ Code.inOrder sizes :=
      Code.mem_inOrder.2 ⟨hsize, Nat.pos_of_ne_zero hend, Nat.le_trans hle (by decide)⟩
    rw [hnone] at hrow
    exact List.not_mem_nil hrow

/-- A result that is there is given. -/
theorem gives_required {α : Type} (a? : Option α) : Gives (required a?) 0 fun a => a? = some a := by
  cases a? with
  | none => exact fun _ _ _ h => nomatch h
  | some a => exact .pure rfl

/-- Short sizes give no bits back. -/
theorem takes_shortSizes (count : Nat) : Takes (shortSizes count) 0 := by
  induction count with
  | zero => exact .pure trivial
  | succ count ih => exact (takes_nat 3).weaken.bind fun _ _ => ih.bind fun _ _ => .pure trivial

/-- The sizes of a code give no bits back. -/
theorem takes_sizesUpTo (code : Code) (count rounds : Nat) (known : List Nat) :
    Takes (sizesUpTo code count rounds known) 0 := by
  induction rounds generalizing known with
  | zero =>
    refine .ite (fun _ => .pure trivial) fun _ bits a rest h => nomatch h
  | succ rounds ih =>
    rw [sizesUpTo]
    refine .ite (fun _ => .pure trivial) fun _ => .guarded fun _ => code.takes_next.bind fun symbol _ => ?_
    split
    · refine (takes_nat 2).weaken.bind fun repeats _ => ?_
      cases known with
      | nil => exact fun _ _ _ h => nomatch h
      | cons last _ => exact ih _
    · exact (takes_nat 3).weaken.bind fun repeats _ => ih _
    · exact (takes_nat 7).weaken.bind fun repeats _ => ih _
    · exact ih _

/-- The code of a block for bytes forks, and the codes give no bits back. -/
theorem gives_blockCodes : Gives blockCodes 0 fun codes => codes.literals.Forks := by
  refine (takes_nat 5).weaken.bind fun literals _ => (takes_nat 5).weaken.bind fun distances _ =>
    (takes_nat 4).weaken.bind fun count _ => .guarded fun _ => (takes_shortSizes _).bind fun short _ =>
    (gives_required _).bind fun sizeCode _ => (takes_sizesUpTo sizeCode _ _ []).bind fun sizes _ => ?_
  refine .guarded fun hend => (gives_required _).bind fun literalCode hcode =>
    (gives_required _).bind fun distanceCode _ => .pure ?_
  exact forks_of_blockCode? hcode hend

/-- A number of a table gives no bits back. -/
theorem takes_entry (table : List (Nat × Nat)) (n : Nat) : Takes (entry table n) 0 :=
  (gives_required _).bind fun (_, size) _ => (takes_nat size).weaken.bind fun _ _ => .pure trivial

variable {codes : Codes}

/-- An item takes a bit. -/
theorem takes_item (h : codes.literals.Forks) : Takes (item codes) 1 := by
  refine h.takes_next.bind fun symbol _ => .ite (fun _ => .pure trivial) fun _ =>
    .ite (fun _ => .pure trivial) fun _ => ?_
  exact (takes_entry _ _).bind fun size _ => codes.distances.takes_next.bind fun symbol _ =>
    (takes_entry _ _).bind fun distance _ => .pure trivial

/-- Without bits there is no item. -/
theorem item_nil (h : codes.literals.Forks) : item codes [] = .error .ended := by
  simp only [item, bind, StateT.bind, Except.bind, h.next_nil]

/-- The size of bytes as they are gives no bits back. -/
theorem takes_plainSize : Takes plainSize 0 := by
  refine (takes_nat 16).weaken.bind fun size _ => (takes_nat 16).weaken.bind fun complement _ => ?_
  exact .ite (fun _ => .pure trivial) fun _ _ _ _ h => nomatch h

/-- The beginning of a block takes bits. -/
theorem takes_blockStart : Takes blockStart 1 :=
  (takes_nat 1).bind fun _ _ => (takes_nat 2).weaken.bind fun _ _ => .pure trivial

/-! ### Rounds -/

/-- One round more than sizes are missing changes nothing. -/
theorem sizesUpTo_succ (code : Code) {count rounds : Nat} {known : List Nat}
    (h : count ≤ known.length + rounds) :
    sizesUpTo code count (rounds + 1) known = sizesUpTo code count rounds known := by
  induction rounds generalizing known with
  | zero =>
    rw [sizesUpTo, sizesUpTo]
    by_cases heq : known.length = count
    · rw [if_pos heq, if_pos heq]
    · rw [if_neg heq, if_neg heq, if_pos (by omega)]
      rfl
  | succ rounds ih =>
    -- every symbol adds a size at least, so one round fewer is enough for the rest
    have hnext (front : List Nat) (hfront : front ≠ []) :
        sizesUpTo code count (rounds + 1) (front ++ known) =
          sizesUpTo code count rounds (front ++ known) := by
      refine ih ?_
      have hpos : 0 < front.length := List.length_pos_iff.2 hfront
      rw [List.length_append]
      omega
    rw [sizesUpTo, sizesUpTo]
    by_cases heq : known.length = count
    · rw [if_pos heq, if_pos heq]
    rw [if_neg heq, if_neg heq]
    by_cases hlt : count < known.length
    · rw [if_pos hlt, if_pos hlt]
      rfl
    rw [if_neg hlt, if_neg hlt]
    refine congrArg (code.next >>= ·) (funext fun symbol => ?_)
    split
    · refine congrArg (nat 2 >>= ·) (funext fun repeats => ?_)
      cases known with
      | nil => rfl
      | cons last _ => exact hnext _ (by simp)
    · exact congrArg (nat 3 >>= ·) (funext fun repeats => hnext _ (by simp))
    · exact congrArg (nat 7 >>= ·) (funext fun repeats => hnext _ (by simp))
    · exact hnext [_] (List.cons_ne_nil _ _)

/-- More rounds than sizes are missing change nothing. -/
theorem sizesUpTo_of_le (code : Code) {count rounds : Nat} (h : count ≤ rounds) :
    sizesUpTo code count rounds [] = sizesUpTo code count count [] := by
  induction h with
  | refl => rfl
  | step hle ih => rw [sizesUpTo_succ code (Nat.le_trans hle (Nat.le_add_left _ _)), ih]

variable {out : Bytes}

/-- One round more than there are bits adds nothing to a block. -/
theorem addItems_succ (hcodes : codes.literals.Forks) {rounds : Nat} {bits : List Bool}
    (h : bits.length ≤ rounds) :
    addItems codes (rounds + 1) bits out = addItems codes rounds bits out := by
  induction rounds generalizing bits out with
  | zero =>
    obtain rfl : bits = [] := List.length_eq_zero_iff.1 (Nat.le_zero.1 h)
    rw [addItems.eq_2, item_nil hcodes]
    rfl
  | succ rounds ih =>
    rw [addItems, addItems]
    cases hitem : item codes bits with
    | error stop => rfl
    | ok first =>
      obtain ⟨item, rest⟩ := first
      have hle : rest.length + 1 ≤ bits.length := (takes_item hcodes bits item rest hitem).2
      have hrest (out : Bytes) : addItems codes (rounds + 1) rest out = addItems codes rounds rest out :=
        ih (by omega)
      cases item <;> simp only [hrest]

/-- More rounds than bits add nothing to a block. -/
theorem addItems_of_le (hcodes : codes.literals.Forks) {rounds : Nat} {bits : List Bool}
    (h : bits.length ≤ rounds) :
    addItems codes rounds bits out = addItems codes bits.length bits out := by
  induction h with
  | refl => rfl
  | step hle ih => rw [addItems_succ hcodes hle, ih]

/-- Bytes as they are give no bits back. -/
theorem length_of_addPlain {count : Nat} {bits rest : List Bool} {out' : Bytes}
    (h : addPlain count bits out = (out', .ok rest)) : rest.length ≤ bits.length := by
  induction count generalizing bits out with
  | zero =>
    obtain ⟨-, hrest⟩ := Prod.mk.inj h
    exact Nat.le_of_eq (congrArg List.length (Except.ok.inj hrest).symm)
  | succ count ih =>
    rw [addPlain] at h
    cases hbyte : nat 8 bits with
    | error stop =>
      rw [hbyte] at h
      exact nomatch h
    | ok first =>
      rw [hbyte] at h
      have hle := (takes_nat 8 bits first.1 first.2 hbyte).2
      exact Nat.le_trans (ih h) (Nat.le_trans (Nat.le_add_right _ 8) hle)

/-- The items of a block give no bits back. -/
theorem length_of_addItems (hcodes : codes.literals.Forks) {rounds : Nat} {bits rest : List Bool}
    {out' : Bytes} (h : addItems codes rounds bits out = (out', .ok rest)) :
    rest.length ≤ bits.length := by
  induction rounds generalizing bits out with
  | zero => exact nomatch h
  | succ rounds ih =>
    rw [addItems] at h
    cases hitem : item codes bits with
    | error stop =>
      rw [hitem] at h
      exact nomatch h
    | ok first =>
      obtain ⟨item, left⟩ := first
      rw [hitem] at h
      have hle : left.length + 1 ≤ bits.length := (takes_item hcodes bits item left hitem).2
      -- the item took a bit, and the rest of the block gives none back
      refine Nat.le_trans ?_ (Nat.le_trans (Nat.le_add_right _ 1) hle)
      cases item with
      | byte b => exact ih h
      | again size distance =>
        dsimp only at h
        split at h
        · exact ih h
        · exact nomatch h
      | done =>
        obtain ⟨-, hrest⟩ := Prod.mk.inj h
        exact Nat.le_of_eq (congrArg List.length (Except.ok.inj hrest).symm)

/-- A block gives no bits back. -/
theorem length_of_addBlock {kind : Nat} {bits rest : List Bool} {out' : Bytes}
    (h : addBlock kind bits out = (out', .ok rest)) : rest.length ≤ bits.length := by
  unfold addBlock at h
  split at h
  · cases hsize : plainSize (bits.drop (bits.length % 8)) with
    | error stop =>
      rw [hsize] at h
      exact nomatch h
    | ok first =>
      rw [hsize] at h
      have hle := (takes_plainSize _ first.1 first.2 hsize).2
      rw [List.length_drop] at hle
      have hrest : rest.length ≤ first.2.length := length_of_addPlain h
      omega
  · exact length_of_addItems forks_fixedCodes h
  · cases hcodes : blockCodes bits with
    | error stop =>
      rw [hcodes] at h
      exact nomatch h
    | ok first =>
      rw [hcodes] at h
      obtain ⟨hforks, hle⟩ := gives_blockCodes bits first.1 first.2 hcodes
      exact Nat.le_trans (length_of_addItems hforks h) hle
  · exact nomatch h

/-- One round more than there are bits adds no blocks. -/
theorem addBlocks_succ {rounds : Nat} {bits : List Bool} (h : bits.length ≤ rounds) :
    addBlocks (rounds + 1) bits out = addBlocks rounds bits out := by
  induction rounds generalizing bits out with
  | zero =>
    obtain rfl : bits = [] := List.length_eq_zero_iff.1 (Nat.le_zero.1 h)
    rfl
  | succ rounds ih =>
    rw [addBlocks, addBlocks]
    cases hstart : blockStart bits with
    | error stop => rfl
    | ok start =>
      obtain ⟨⟨last, kind⟩, rest⟩ := start
      have hle : rest.length + 1 ≤ bits.length := (takes_blockStart bits _ rest hstart).2
      simp only
      cases hblock : addBlock kind rest out with
      | mk out' left =>
        cases left with
        | error stop => rfl
        | ok rest' =>
          have hle' : rest'.length ≤ rest.length := length_of_addBlock hblock
          simp only
          rw [ih (by omega)]

/-- More rounds than bits add no blocks. -/
theorem addBlocks_of_le {rounds : Nat} {bits : List Bool} (h : bits.length ≤ rounds) :
    addBlocks rounds bits out = addBlocks bits.length bits out := by
  induction h with
  | refl => rfl
  | step hle ih => rw [addBlocks_succ hle, ih]

end Deflated

end ServletRoutes.Archive
