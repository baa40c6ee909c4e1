import ServletRoutes.Proofs.Pattern.Marked

/-!
# `ServletRoutes.Proofs.Pattern.Matching`: a search finds what a pattern matches

The search lays a pattern out without marks, joins the parts of a sequence in
pairs, builds a repetition by halves, and cuts the number of repetitions. None
of this changes what is matched (`matches_unmarked`), so the search finds a
match exactly when the text has one: `occursIn_iff`.
-/

set_option autoImplicit false

namespace ServletRoutes.Pattern

open Relation

variable {text : Text} {i j : Nat}

/-! ### Putting patterns together -/

namespace Marked

variable {a b : Marked} {ms : List Marked} {n : Nat}

/-- A pattern that nothing has been read with. -/
structure Fresh (m : Marked) : Prop where
  built : m.Built
  idle : m.active = false

/-- A sequence of fresh patterns is fresh. -/
theorem Fresh.andThen (ha : a.Fresh) (hb : b.Fresh) : (a.andThen b).Fresh :=
  ⟨ha.built.andThen hb.built, by rw [active_andThen, ha.idle, hb.idle]; rfl⟩

/-- A choice of fresh patterns is fresh. -/
theorem Fresh.orElse (ha : a.Fresh) (hb : b.Fresh) : (a.orElse b).Fresh :=
  ⟨ha.built.orElse hb.built, by rw [active_orElse, ha.idle, hb.idle]; rfl⟩

/-- The repetition of a fresh pattern is fresh. -/
theorem Fresh.repeated (ha : a.Fresh) : a.repeated.Fresh := ⟨ha.built.repeated, ha.idle⟩

/-- The empty pattern is fresh. -/
theorem fresh_empty : empty.Fresh := ⟨.empty, rfl⟩

/-- A fresh pattern that may be missing is fresh. -/
theorem Fresh.optional (ha : a.Fresh) : a.optional.Fresh := ha.orElse fresh_empty

/-- A fresh pattern a number of times is fresh. -/
theorem Fresh.times (ha : a.Fresh) (n : Nat) : (a.times n).Fresh := by
  induction n using Nat.strongRecOn with
  | ind n ih =>
    rw [Marked.times]
    split
    · exact fresh_empty
    split
    · exact ha
    have hhalf := ih (n / 2) (by omega)
    split
    · exact hhalf.andThen hhalf
    · exact ha.andThen (hhalf.andThen hhalf)

/-- A pattern a number of times matches by as many steps. -/
theorem matches_times (text : Text) (a : Marked) (n : Nat) :
    (a.times n).Matches text = Steps (a.Matches text) n := by
  induction n using Nat.strongRecOn with
  | ind n ih =>
    rw [Marked.times]
    split
    next h => rw [h]; rfl
    split
    next h => rw [h, steps_one]
    -- the pattern is laid out half as often, twice, and once more for an odd number
    have hhalf := ih (n / 2) (by omega)
    split
    next heven =>
      show Comp _ _ = _
      rw [hhalf, ← steps_add]
      congr 1
      omega
    next hodd =>
      show Comp _ (Comp _ _) = _
      have hn : 1 + (n / 2 + n / 2) = n := by omega
      rw [hhalf, ← steps_add]
      calc Comp (a.Matches text) (Steps (a.Matches text) (n / 2 + n / 2))
        _ = Steps (a.Matches text) (1 + (n / 2 + n / 2)) := by rw [steps_add (n := 1), steps_one]
        _ = Steps (a.Matches text) n := by rw [hn]

/-- Patterns that match one after the other. -/
def InTurn (text : Text) (ms : List Marked) : Nat → Nat → Prop :=
  ms.foldr (fun m r => Comp (m.Matches text) r) Eq

/-- No patterns match nothing at one spot. -/
@[simp] theorem inTurn_nil : InTurn text [] = Eq := rfl

/-- Patterns one after the other: the rest begins where the first one ends. -/
@[simp] theorem inTurn_cons : InTurn text (a :: ms) = Comp (a.Matches text) (InTurn text ms) := rfl

/-- One pattern alone matches what it matches. -/
theorem inTurn_singleton : InTurn text [a] = a.Matches text := Relation.comp_eq

/-- Patterns one after the other can be parted anywhere. -/
theorem inTurn_append (ms ns : List Marked) :
    InTurn text (ms ++ ns) = Comp (InTurn text ms) (InTurn text ns) := by
  induction ms with
  | nil => exact Relation.eq_comp.symm
  | cons a ms ih => rw [List.cons_append, inTurn_cons, inTurn_cons, ih, Relation.comp_assoc]

/-- Joining patterns in pairs does not change what they match. -/
theorem inTurn_inPairs (ms : List Marked) : InTurn text (inPairs ms) = InTurn text ms := by
  fun_induction inPairs ms with
  | case1 a b rest ih => rw [inTurn_cons, ih, inTurn_cons, inTurn_cons, ← Relation.comp_assoc]; rfl
  | case2 => rfl

/-- Fresh patterns joined in pairs are fresh. -/
theorem fresh_inPairs (h : ∀ m ∈ ms, m.Fresh) : ∀ m ∈ inPairs ms, m.Fresh := by
  fun_induction inPairs ms with
  | case1 a b rest ih =>
    simp only [List.forall_mem_cons] at h ⊢
    exact ⟨h.1.andThen h.2.1, ih h.2.2⟩
  | case2 => exact h

/-- Joining in pairs any number of times does not change what is matched. -/
theorem inTurn_repeat (n : Nat) (ms : List Marked) :
    InTurn text (Nat.repeat inPairs n ms) = InTurn text ms := by
  induction n with
  | zero => rfl
  | succ n ih => rw [Nat.repeat, inTurn_inPairs, ih]

/-- Joining in pairs any number of times keeps patterns fresh. -/
theorem fresh_repeat (h : ∀ m ∈ ms, m.Fresh) (n : Nat) : ∀ m ∈ Nat.repeat inPairs n ms, m.Fresh := by
  induction n with
  | zero => exact h
  | succ n ih => exact fresh_inPairs ih

/-- Patterns joined from the left match what they match one after the other. -/
theorem matches_foldl_andThen (a : Marked) (ms : List Marked) :
    (ms.foldl Marked.andThen a).Matches text = InTurn text (a :: ms) := by
  induction ms generalizing a with
  | nil => exact inTurn_singleton.symm
  | cons b ms ih =>
    rw [List.foldl_cons, ih, inTurn_cons, inTurn_cons, inTurn_cons, ← Relation.comp_assoc]
    rfl

/-- Fresh patterns joined from the left are fresh. -/
theorem fresh_foldl_andThen (ha : a.Fresh) (h : ∀ m ∈ ms, m.Fresh) :
    (ms.foldl Marked.andThen a).Fresh := by
  induction ms generalizing a with
  | nil => exact ha
  | cons b ms ih =>
    rw [List.forall_mem_cons] at h
    exact ih (ha.andThen h.1) h.2

/-- A sequence matches what its patterns match one after the other. -/
theorem matches_inSequence (ms : List Marked) :
    (inSequence ms).Matches text = InTurn text ms := by
  rw [inSequence, ← inTurn_repeat (Nat.log2 ms.length) ms]
  split
  next h => rw [h]; rfl
  next a rest h => rw [h, matches_foldl_andThen]

/-- A sequence of fresh patterns is fresh. -/
theorem fresh_inSequence (h : ∀ m ∈ ms, m.Fresh) : (inSequence ms).Fresh := by
  have hrepeat := fresh_repeat h (Nat.log2 ms.length)
  rw [inSequence]
  split
  · exact fresh_empty
  next a rest heq =>
    rw [heq, List.forall_mem_cons] at hrepeat
    exact fresh_foldl_andThen hrepeat.1 hrepeat.2

end Marked

/-! ### Fewer repetitions -/

section Cut

variable {r : Nat → Nat → Prop} {spots n m least extra : Nat}

/-- More steps than there are spots may be cut to that number. -/
theorem Forward.steps_cut (hr : Forward r) (hspan : ∀ n, Steps r n i j → j - i < spots) :
    Steps r (min n spots + m) i j ↔ Steps r (n + m) i j := by
  by_cases hle : n ≤ spots
  · rw [Nat.min_eq_left hle]
  · have hcut : min n spots = spots := Nat.min_eq_right (by omega)
    have hiff (hlt : j - i < spots) : Steps r (spots + m) i j ↔ Steps r (n + m) i j :=
      hr.steps_iff_of_lt (by omega) (by omega)
    rw [hcut]
    exact ⟨fun h => (hiff (hspan _ h)).1 h, fun h => (hiff (hspan _ h)).2 h⟩

/-- At least so many steps, as they are laid out: all but one of them, and then a loop. -/
theorem Forward.cut_loop (hr : Forward r) (hspan : ∀ n, Steps r n i j → j - i < spots)
    (hleast : least ≠ 0) :
    Comp (Steps r (min (least - 1) spots)) (TransGen r) i j ↔ ∃ n, least ≤ n ∧ Steps r n i j := by
  constructor
  · rintro ⟨k, hik, hkj⟩
    obtain ⟨d, hsteps⟩ := transGen_iff_steps.1 hkj
    exact ⟨least - 1 + (d + 1), by omega, (hr.steps_cut hspan).1 (steps_add_iff.2 ⟨k, hik, hsteps⟩)⟩
  · rintro ⟨n, hle, h⟩
    have hn : n = least - 1 + (n - least + 1) := by omega
    rw [hn, ← hr.steps_cut hspan, steps_add_iff] at h
    obtain ⟨k, hik, hkj⟩ := h
    exact ⟨k, hik, transGen_iff_steps.2 ⟨_, hkj⟩⟩

/-- So many steps and some more, as they are laid out: those that are sure, and then those that may be
left out. -/
theorem Forward.cut_bounded (hr : Forward r) (hspan : ∀ n, Steps r n i j → j - i < spots) :
    Comp (Steps r (min least spots)) (Steps (fun i j => r i j ∨ i = j) (min extra spots)) i j ↔
      ∃ n, least ≤ n ∧ n ≤ least + extra ∧ Steps r n i j := by
  constructor
  · rintro ⟨k, hik, hkj⟩
    obtain ⟨d, hd, hsteps⟩ := steps_or_eq.1 hkj
    exact ⟨least + d, by omega, by omega,
      (hr.steps_cut hspan).1 (steps_add_iff.2 ⟨k, hik, hsteps⟩)⟩
  · rintro ⟨n, hle, hle', h⟩
    -- both numbers are cut, one after the other
    have hn : n = n - least + least := by omega
    rw [hn, ← hr.steps_cut hspan, Nat.add_comm, ← hr.steps_cut hspan, steps_add_iff] at h
    obtain ⟨k, hik, hkj⟩ := h
    exact ⟨k, hik, steps_or_eq.2 ⟨_, by omega, hkj⟩⟩

end Cut

/-! ### Laying a pattern out -/

namespace Expr

variable {e : Expr} {spots n : Nat}

/-- Repetitions that lead from one spot to another stay within the text. -/
theorem span_lt (hspots : text.length < spots) (h : Steps (e.Matches text) n i j) :
    j - i < spots := by
  have hle : j ≤ max i text.length :=
    steps_preserve (p := (· ≤ max i text.length))
      (fun _ _ hstep hi => hstep.le_of_le (Nat.le_max_right _ _) hi) h (Nat.le_max_left _ _)
  omega

/-- The set of one character has that character only. -/
theorem contains_single {c d : Char} : (CharSet.single c).contains d = true ↔ c = d := by
  have htoNat : c.toNat = d.toNat ↔ c = d := Char.toNat_inj
  simp only [CharSet.contains, CharSet.has, CharSet.single, CharSet.between, Range.contains,
    List.any_cons, List.any_nil, Bool.or_false, Bool.and_eq_true, decide_eq_true_eq, ← htoNat]
  omega

/-- The readers of a fixed text. -/
theorem inTurn_word (w : Text) : Marked.InTurn text (w.map fun c => .reader (.single c) false) =
    (word w).Matches text := by
  funext i j
  apply propext
  induction w generalizing i with
  | nil => simp [Matches, eq_comm]
  | cons c w ih =>
    have hnext : c :: w <+: text.drop i ↔ text[i]? = some c ∧ w <+: text.drop (i + 1) := by
      rw [← List.head?_drop, ← List.tail_drop]
      cases text.drop i with
      | nil => simp
      | cons d t => simp [List.cons_prefix_cons, eq_comm]
    rw [List.map_cons, Marked.inTurn_cons]
    constructor
    · rintro ⟨_, ⟨d, hd, hset, rfl⟩, hrest⟩
      obtain rfl := contains_single.1 hset
      obtain ⟨hw, rfl⟩ := (ih _).1 hrest
      exact ⟨hnext.2 ⟨hd, hw⟩, by simp; omega⟩
    · rintro ⟨hcw, rfl⟩
      obtain ⟨hc, hw⟩ := hnext.1 hcw
      exact ⟨i + 1, ⟨c, hc, contains_single.2 rfl, rfl⟩, (ih _).2 ⟨hw, by simp; omega⟩⟩

/-- A pattern is laid out in fresh parts. -/
theorem fresh_unmarkedParts (e : Expr) (spots : Nat) : ∀ m ∈ e.unmarkedParts spots, m.Fresh := by
  induction e with
  | empty => simp [unmarkedParts]
  | word w =>
    simp only [unmarkedParts, List.forall_mem_map]
    exact fun c _ => ⟨.reader _ _, rfl⟩
  | one set _ => simpa [unmarkedParts] using ⟨.reader _ _, rfl⟩
  | spot test => simpa [unmarkedParts] using ⟨.spot _, rfl⟩
  | seq first second ihf ihs =>
    rw [unmarkedParts, List.forall_mem_append]
    exact ⟨ihf, ihs⟩
  | either left right ihl ihr =>
    simpa [unmarkedParts] using (Marked.fresh_inSequence ihl).orElse (Marked.fresh_inSequence ihr)
  | iterate body least most _ ih =>
    have hbody := Marked.fresh_inSequence ih
    cases most with
    | none =>
      rw [unmarkedParts]
      split
      · simpa using hbody.repeated.optional
      · simpa using ⟨hbody.times _, hbody.repeated⟩
    | some most => simpa [unmarkedParts] using ⟨hbody.times _, hbody.optional.times _⟩
  | group body ih => exact ih

section

variable {body : Expr} {least : Nat} {isLazy : Bool}

/-- A repetition without a bound, laid out for a text. -/
theorem inTurn_iterate_none (hspots : text.length < spots)
    (hbody : Marked.InTurn text (body.unmarkedParts spots) = body.Matches text) :
    Marked.InTurn text ((iterate body least none isLazy).unmarkedParts spots) =
      (iterate body least none isLazy).Matches text := by
  funext i j
  apply propext
  have hloop := (Marked.matches_inSequence _).trans hbody
  have hmatches : (iterate body least none isLazy).Matches text i j ↔
      ∃ n, least ≤ n ∧ Steps (body.Matches text) n i j := by
    simp [Matches]
  rw [unmarkedParts, hmatches]
  split
  -- without a least number there may be no step; with one the last of so many steps loops
  next hzero =>
    rw [Marked.inTurn_singleton, hzero]
    show TransGen (Marked.Matches text _) i j ∨ i = j ↔ _
    rw [hloop, or_comm, eq_comm, ← reflTransGen_iff_eq_or_transGen, reflTransGen_iff_steps]
    simp
  next hzero =>
    rw [Marked.inTurn_cons, Marked.inTurn_singleton, Marked.matches_times]
    show Comp _ (TransGen (Marked.Matches text _)) i j ↔ _
    rw [hloop]
    exact (forward_matches text body).cut_loop (fun n => span_lt hspots) hzero

/-- A repetition with a bound, laid out for a text. -/
theorem inTurn_iterate_some (hspots : text.length < spots) {bound : Nat}
    (hbody : Marked.InTurn text (body.unmarkedParts spots) = body.Matches text) :
    Marked.InTurn text ((iterate body least (some bound) isLazy).unmarkedParts spots) =
      (iterate body least (some bound) isLazy).Matches text := by
  funext i j
  apply propext
  have hmatches : (iterate body least (some bound) isLazy).Matches text i j ↔
      ∃ n, least ≤ n ∧ n ≤ least + (bound - least) ∧ Steps (body.Matches text) n i j := by
    have hmax : max least bound = least + (bound - least) := by omega
    simp only [Matches, Option.mem_def, Option.some.injEq, forall_eq', hmax]
  rw [unmarkedParts, hmatches, Marked.inTurn_cons, Marked.inTurn_singleton,
    Marked.matches_times, Marked.matches_times]
  show Comp _ (Steps (fun i j => Marked.Matches text _ i j ∨ i = j) _) i j ↔ _
  rw [(Marked.matches_inSequence _).trans hbody]
  exact (forward_matches text body).cut_bounded fun n => span_lt hspots

end

/-- The parts of a pattern match one after the other what the pattern matches. -/
theorem inTurn_unmarkedParts (hspots : text.length < spots) (e : Expr) :
    Marked.InTurn text (e.unmarkedParts spots) = e.Matches text := by
  induction e with
  | empty => rfl
  | word w => exact inTurn_word w
  | one set _ => exact Marked.inTurn_singleton
  | spot test => exact Marked.inTurn_singleton
  | seq first second ihf ihs => rw [unmarkedParts, Marked.inTurn_append, ihf, ihs]; rfl
  | either left right ihl ihr =>
    rw [unmarkedParts, Marked.inTurn_singleton]
    funext i j
    show (Marked.Matches text _ i j ∨ Marked.Matches text _ i j) = _
    rw [Marked.matches_inSequence, Marked.matches_inSequence, ihl, ihr]
    rfl
  | iterate body least most _ ih =>
    cases most with
    | none => exact inTurn_iterate_none hspots ih
    | some bound => exact inTurn_iterate_some hspots ih
  | group body ih => exact ih

/-- A pattern laid out for a text matches in it what the pattern matches. -/
theorem matches_unmarked (hspots : text.length < spots) (e : Expr) :
    (e.unmarked spots).Matches text = e.Matches text :=
  (Marked.matches_inSequence _).trans (inTurn_unmarkedParts hspots e)

/-- A pattern occurs in a text exactly when it matches some part of it. -/
theorem occursIn_iff (e : Expr) (text : Text) :
    e.occursIn text = true ↔ ∃ i j, j ≤ text.length ∧ e.Matches text i j := by
  have hfresh : (e.unmarked (text.length + 1)).Fresh :=
    Marked.fresh_inSequence (fresh_unmarkedParts e _)
  have hsearch := hfresh.built.endsWithin_iff [] text rfl (hfresh.built.tracks_start hfresh.idle _)
  rw [List.nil_append, matches_unmarked (Nat.lt_succ_self _)] at hsearch
  exact hsearch.trans (by simp)

end Expr

end ServletRoutes.Pattern
