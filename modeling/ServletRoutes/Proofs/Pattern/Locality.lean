import ServletRoutes.Pattern.Reading

/-!
# `ServletRoutes.Proofs.Pattern.Locality`: readers up to the end of a group

A group ends at a closing parenthesis, and a pattern that is no group at the end
of its text. What is read of a group must not depend on which of the two comes,
nor on what stands behind the parenthesis.

`Local` says so of a reader: where it has read some of `q`, which a closing
parenthesis follows, it reads the same where the text ends behind `q`. It is said
of two readers, because the length of a text is the fuel of a reader and the
two texts differ in length; `bound` is a number of characters for which the fuel
of the second one is enough. The property goes from the parts of a reader to the
whole, so the readers are written here as programs first.

Some readers look further than they read. They are local where what they leave
does not mislead them (`LocalWhen`).
-/

set_option autoImplicit false

namespace ServletRoutes.Pattern

variable {α β : Type}

/-! ### Readers as programs -/

/-- A reader gives a value and what is left of a text. -/
abbrev Reader (α : Type) := StateT Text Option α

namespace Reader

/-- The next character. -/
def next : Reader Char
  | [] => none
  | c :: t => some (c, t)

/-- A value that is there without being read, or none. -/
def ofOption (value : Option α) : Reader α := fun t => value.map (·, t)

/-- What the flags leave out. -/
def skipping (flags : Flags) : Reader Unit := fun t => some ((), flags.skip t)

/-- Blanks. -/
def blanks : Reader Unit := fun t => some ((), t.dropWhile Unicode.isBlank)

/-- One way where a character of some kind comes next, which is read, and another way where not. -/
def branch (p : Char → Bool) (yes : Char → Reader α) (no : Reader α) : Reader α
  | c :: t => if p c then yes c t else no (c :: t)
  | [] => no []

/-- One way where a character comes next, which is read, and another way where not. -/
def on (c : Char) (yes no : Reader α) : Reader α := branch (· = c) (fun _ => yes) no

/-- One way where a text comes next, which is read, and another way where not. -/
def onWord (w : Text) (yes no : Reader α) : Reader α :=
  fun t => if w <+: t then yes (t.drop w.length) else no t

/-- A reader of two values. -/
def ofTriple (f : Text → Option (α × β × Text)) : Reader (α × β) :=
  fun t => (f t).map fun (a, b, rest) => ((a, b), rest)

/-- Readers one after the other: the second one reads what the first one leaves. -/
@[simp] theorem bind_apply (f : Reader α) (k : α → Reader β) (t : Text) :
    (f >>= k) t = (f t).bind fun x => k x.1 x.2 := rfl

/-- A value is given without reading. -/
@[simp] theorem pure_apply (a : α) (t : Text) : (pure a : Reader α) t = some (a, t) := rfl

/-- The value that is read is changed, and what is left is not. -/
@[simp] theorem map_apply (f : Reader α) (k : α → β) (t : Text) :
    (k <$> f) t = (f t).bind fun x => some (k x.1, x.2) := rfl

/-- A value that is there is given without reading. -/
@[simp] theorem ofOption_apply (value : Option α) (t : Text) :
    ofOption value t = value.bind fun a => some (a, t) := by
  cases value <;> rfl

/-- Leaving out always succeeds. -/
@[simp] theorem skipping_apply (flags : Flags) (t : Text) :
    skipping flags t = some ((), flags.skip t) := rfl

/-- Reading blanks always succeeds. -/
@[simp] theorem blanks_apply (t : Text) : blanks t = some ((), t.dropWhile Unicode.isBlank) := rfl

/-- Nothing comes next at the end. -/
@[simp] theorem next_nil : next [] = none := rfl

/-- The next character is the first one. -/
@[simp] theorem next_cons (c : Char) (t : Text) : next (c :: t) = some (c, t) := rfl

/-- The reader that is chosen reads. -/
@[simp] theorem if_apply (p : Prop) [Decidable p] (f g : Reader α) (t : Text) :
    (if p then f else g) t = if p then f t else g t := by
  split <;> rfl

/-- At the end no character comes next. -/
@[simp] theorem on_nil (c : Char) (yes no : Reader α) : on c yes no [] = no [] := rfl

/-- The way is chosen by the first character. -/
theorem on_cons (c d : Char) (yes no : Reader α) (t : Text) :
    on c yes no (d :: t) = if d = c then yes t else no (d :: t) := by
  simp [on, branch]

/-- The character is read where it comes next. -/
theorem on_cons_self (c : Char) (yes no : Reader α) (t : Text) :
    on c yes no (c :: t) = yes t := by
  rw [on_cons, if_pos rfl]

/-- Where the character does not come next, nothing is read before the other way. -/
theorem on_of_ne {c : Char} {t : Text} (h : ∀ rest, t = c :: rest → False) (yes no : Reader α) :
    on c yes no t = no t := by
  cases t with
  | nil => rfl
  | cons d t =>
    rw [on_cons, if_neg fun heq => h t (by rw [heq])]

/-- The text is read where it comes next. -/
theorem onWord_append (w t : Text) (yes no : Reader α) : onWord w yes no (w ++ t) = yes t := by
  rw [onWord, if_pos (List.prefix_append w t), List.drop_left]

/-- Where the text does not come next, nothing is read before the other way. -/
theorem onWord_of_ne {w t : Text} (h : ∀ rest, t = w ++ rest → False) (yes no : Reader α) :
    onWord w yes no t = no t :=
  if_neg fun ⟨rest, heq⟩ => h rest heq.symm

/-- Readers one after the other succeed when the first one does and the second one does on what is
left. -/
theorem bind_eq_some_iff {f : Reader α} {k : α → Reader β} {t rest : Text} {b : β} :
    (f >>= k) t = some (b, rest) ↔ ∃ a mid, f t = some (a, mid) ∧ k a mid = some (b, rest) := by
  simp [Option.bind_eq_some_iff]

/-- A value without reading leaves everything. -/
theorem ofOption_eq_some_iff {value : Option α} {t rest : Text} {a : α} :
    ofOption value t = some (a, rest) ↔ value = some a ∧ rest = t := by
  cases value <;> simp [ofOption, eq_comm]

end Reader

open Reader

/-! ### Locality -/

/-- The text goes on with the end of a group: it is empty or begins with a closing parenthesis. -/
def EndsGroup (tail : Text) : Prop := ∀ c ∈ tail.head?, c = ')'

/-- The end of a group is the end of the text or a closing parenthesis. -/
theorem EndsGroup.cases {tail : Text} (h : EndsGroup tail) : tail = [] ∨ ∃ r, tail = ')' :: r := by
  cases tail with
  | nil => exact .inl rfl
  | cons c r => exact .inr ⟨r, by rw [h c rfl]⟩

/-- A group can end with the text. -/
theorem endsGroup_nil : EndsGroup [] := by simp [EndsGroup]

/-- A group can end at a closing parenthesis. -/
theorem endsGroup_cons (r : Text) : EndsGroup (')' :: r) := by simp [EndsGroup]

/-- What the first reader reads in front of a closing parenthesis, the second one reads in front of any
end of a group, if what is left is `settled`. -/
structure LocalWhen (settled : α → Text → Text → Prop) (bound : Nat) (f g : Reader α) : Prop where
  suffix {t rest : Text} {a : α} : f t = some (a, rest) → rest <:+ t
  exchange {q r q' tail : Text} {a : α} : q.length < bound → EndsGroup tail →
    settled a (q' ++ ')' :: r) (')' :: r) → f (q ++ ')' :: r) = some (a, q' ++ ')' :: r) →
    g (q ++ tail) = some (a, q' ++ tail)

/-- What the first reader reads in front of a closing parenthesis, the second one reads in front of any
end of a group. -/
abbrev Local (bound : Nat) (f g : Reader α) : Prop := LocalWhen (fun _ _ _ => True) bound f g

/-- A text that has the same end as a longer one. -/
theorem exists_of_suffix {s t q : Text} (hs : s <:+ t) (ht : t <:+ q ++ s) :
    ∃ q', t = q' ++ s ∧ q' <:+ q := by
  obtain ⟨q', rfl⟩ := hs
  obtain ⟨front, hfront⟩ := ht
  rw [← List.append_assoc] at hfront
  exact ⟨q', rfl, front, List.append_cancel_right hfront⟩

/-- What reaches beyond a seam, and is not all of what stands there, has its first character in
front of the seam. -/
theorem exists_cons_of_suffix {s t q : Text} {c : Char} (hs : s <:+ c :: t) (hne : c :: t ≠ s)
    (ht : c :: t <:+ q ++ s) : ∃ q', t = q' ++ s ∧ c :: q' <:+ q := by
  obtain ⟨front, heq, hfront⟩ := exists_of_suffix hs ht
  cases front with
  | nil => exact absurd heq hne
  | cons d q' =>
    obtain ⟨rfl, rfl⟩ := List.cons_eq_cons.1 heq
    exact ⟨q', rfl, hfront⟩

namespace LocalWhen

variable {settled : α → Text → Text → Prop} {settled' : β → Text → Text → Prop} {bound bound' : Nat}
  {f g : Reader α} {k l : α → Reader β}

/-- A reader that is local for texts up to some length is local for shorter ones. -/
theorem mono (h : LocalWhen settled bound f g) (hle : bound' ≤ bound) :
    LocalWhen settled bound' f g where
  suffix := h.suffix
  exchange hlt := h.exchange (Nat.lt_of_lt_of_le hlt hle)

/-- A local reader is never misled. -/
theorem when (h : Local bound f g) : LocalWhen settled bound f g where
  suffix := h.suffix
  exchange hlt htail _ := h.exchange hlt htail trivial

/-- One reader and then another. What the second one reads must show that the first one was not
misled. The first one reads at least `cost` characters, for which the second one needs no fuel. -/
theorem bindWhen (cost : Nat) (hf : LocalWhen settled (bound + cost) f g)
    (hcost : ∀ {t rest a}, f t = some (a, rest) → rest.length + cost ≤ t.length)
    (hk : ∀ a, LocalWhen settled' bound (k a) (l a))
    (hsettled : ∀ {a t rest s b}, k a t = some (b, rest) → s <:+ rest → settled' b rest s →
      settled a t s) :
    LocalWhen settled' (bound + cost) (f >>= k) (g >>= l) where
  suffix h := by
    obtain ⟨a, mid, hfirst, hsecond⟩ := bind_eq_some_iff.1 h
    exact ((hk a).suffix hsecond).trans (hf.suffix hfirst)
  exchange := by
    intro q r q' tail b hlt htail hset h
    obtain ⟨a, mid, hfirst, hsecond⟩ := bind_eq_some_iff.1 h
    have hend : ')' :: r <:+ q' ++ ')' :: r := List.suffix_append _ _
    have hset' := hsettled hsecond hend hset
    -- the closing parenthesis has not been read in between
    obtain ⟨mid', rfl, _⟩ := exists_of_suffix (hend.trans ((hk a).suffix hsecond)) (hf.suffix hfirst)
    have hlen := hcost hfirst
    simp only [List.length_append] at hlen
    have hlt' : mid'.length < bound := by omega
    exact bind_eq_some_iff.2 ⟨a, mid' ++ tail, hf.exchange hlt htail hset' hfirst,
      (hk a).exchange hlt' htail hset hsecond⟩

/-- One reader and then another, which shows that the first one was not misled. -/
theorem bindSettled (hf : LocalWhen settled bound f g)
    (hk : ∀ a, LocalWhen settled' bound (k a) (l a))
    (hsettled : ∀ {a t rest s b}, k a t = some (b, rest) → s <:+ rest → settled' b rest s →
      settled a t s) :
    LocalWhen settled' bound (f >>= k) (g >>= l) :=
  hf.bindWhen 0 (fun h => (hf.suffix h).length_le) hk hsettled

/-- One reader and then another. -/
theorem bind (hf : Local bound f g) (hk : ∀ a, LocalWhen settled' bound (k a) (l a)) :
    LocalWhen settled' bound (f >>= k) (g >>= l) :=
  hf.bindSettled hk fun _ _ _ => trivial

/-- A choice of local readers is local. -/
theorem ite {p : Prop} [Decidable p] {f' g' : Reader α} (hf : LocalWhen settled bound f g)
    (hf' : LocalWhen settled bound f' g') :
    LocalWhen settled bound (if p then f else f') (if p then g else g') := by
  split
  · exact hf
  · exact hf'

end LocalWhen

section

variable {settled : α → Text → Text → Prop} {bound : Nat}

/-- A value without reading is local. -/
theorem local_ofOption (value : Option α) : Local bound (ofOption value) (ofOption value) where
  suffix h := (ofOption_eq_some_iff.1 h).2 ▸ List.suffix_rfl
  exchange := by
    intro q r q' tail a _ _ _ h
    obtain ⟨rfl, heq⟩ := ofOption_eq_some_iff.1 h
    exact ofOption_eq_some_iff.2 ⟨rfl, by rw [List.append_cancel_right heq]⟩

/-- A value is local. -/
theorem local_pure (a : α) : Local bound (pure a) (pure a) := local_ofOption (some a)

/-- Failing is local. -/
theorem local_none : Local bound (ofOption (none : Option α)) (ofOption none) := local_ofOption none

/-- The next character is the first one. -/
theorem next_eq_some_iff {t rest : Text} {c : Char} : next t = some (c, rest) ↔ t = c :: rest := by
  cases t <;> simp [next]

/-- The next character is local: what stands in front of a parenthesis does not depend on it. -/
theorem local_next : Local bound next next where
  suffix h := next_eq_some_iff.1 h ▸ List.suffix_cons _ _
  exchange := by
    intro q r q' tail c _ _ _ h
    rw [next_eq_some_iff] at h
    cases q with
    | nil =>
      -- the parenthesis itself is read
      have hlen := congrArg List.length h
      simp at hlen
      omega
    | cons d q =>
      obtain ⟨rfl, hq⟩ := List.cons_eq_cons.1 h
      rw [List.append_cancel_right hq]
      rfl

/-- The next character, and then what takes less fuel. -/
theorem local_next_bind {k l : Char → Reader α} (hk : ∀ c, LocalWhen settled bound (k c) (l c)) :
    LocalWhen settled (bound + 1) (next >>= k) (next >>= l) :=
  local_next.bindWhen 1 (fun h => by rw [next_eq_some_iff.1 h]; exact Nat.le_refl _) hk
    fun _ _ _ => trivial

/-- A choice by the next character, which is read on one way only. -/
theorem local_branch_of_le {p : Char → Bool} {yes yes' : Char → Reader α} {no no' : Reader α}
    {bound' : Nat} (hyes : ∀ c, LocalWhen settled bound' (yes c) (yes' c))
    (hno : LocalWhen settled bound no no') (hle : bound ≤ bound' + 1) :
    LocalWhen settled bound (branch p yes no) (branch p yes' no') where
  suffix := by
    intro t rest a h
    cases t with
    | nil => exact hno.suffix h
    | cons c t =>
      rw [branch] at h
      split at h
      · exact ((hyes c).suffix h).trans (List.suffix_cons c t)
      · exact hno.suffix h
  exchange := by
    intro q r q' tail a hlt htail hset h
    -- in front of the seam the character is the same; at the seam it is the parenthesis, which
    -- cannot be read, so the other way is taken
    cases q with
    | nil =>
      rw [List.nil_append, branch] at h
      split at h
      · -- the parenthesis is read
        have hlen := ((hyes _).suffix h).length_le
        simp at hlen
        omega
      next hp =>
        have hexchange := hno.exchange hlt htail hset h
        rcases htail.cases with rfl | ⟨r', rfl⟩
        · exact hexchange
        · rw [List.nil_append, branch, if_neg hp]
          exact hexchange
    | cons c q =>
      rw [List.cons_append, branch] at h ⊢
      split at h
      next hp =>
        rw [if_pos hp]
        exact (hyes c).exchange (by simp at hlt; omega) htail hset h
      next hp =>
        rw [if_neg hp]
        exact hno.exchange hlt htail hset h

/-- A choice by the next character is local if both ways are. -/
theorem local_branch {p : Char → Bool} {yes yes' : Char → Reader α} {no no' : Reader α}
    (hyes : ∀ c, LocalWhen settled bound (yes c) (yes' c)) (hno : LocalWhen settled bound no no') :
    LocalWhen settled bound (branch p yes no) (branch p yes' no') :=
  local_branch_of_le hyes hno (Nat.le_succ _)

/-- A choice by the next character. The way on which it is read has one character less in front of
it. -/
theorem local_branch_succ {p : Char → Bool} {yes yes' : Char → Reader α} {no no' : Reader α}
    (hyes : ∀ c, LocalWhen settled bound (yes c) (yes' c))
    (hno : LocalWhen settled (bound + 1) no no') :
    LocalWhen settled (bound + 1) (branch p yes no) (branch p yes' no') :=
  local_branch_of_le hyes hno (Nat.le_refl _)

/-- A choice by one character is local if both ways are. -/
theorem local_on {c : Char} {yes yes' no no' : Reader α} (hyes : LocalWhen settled bound yes yes')
    (hno : LocalWhen settled bound no no') :
    LocalWhen settled bound (on c yes no) (on c yes' no') :=
  local_branch (fun _ => hyes) hno

/-- A choice by one character. The way on which it is read has one character less in front of it. -/
theorem local_on_succ {c : Char} {yes yes' no no' : Reader α}
    (hyes : LocalWhen settled bound yes yes') (hno : LocalWhen settled (bound + 1) no no') :
    LocalWhen settled (bound + 1) (on c yes no) (on c yes' no') :=
  local_branch_succ (fun _ => hyes) hno

/-- A text without a closing parenthesis does not reach into the end of a group. -/
theorem EndsGroup.prefix_append_iff {w q tail : Text} (htail : EndsGroup tail) (hw : ')' ∉ w) :
    w <+: q ++ tail ↔ w <+: q := by
  refine ⟨fun h => ?_, fun h => h.trans (List.prefix_append q tail)⟩
  induction w generalizing q with
  | nil => exact List.nil_prefix
  | cons c w ih =>
    rw [List.mem_cons, not_or] at hw
    cases q with
    | nil =>
      rcases htail.cases with rfl | ⟨r, rfl⟩
      · exact h
      · exact absurd (List.cons_prefix_cons.1 h).1.symm hw.1
    | cons d q =>
      rw [List.cons_append, List.cons_prefix_cons] at h
      exact List.cons_prefix_cons.2 ⟨h.1, ih hw.2 h.2⟩

/-- What is read of a text without a closing parenthesis stands in front of the end of the group. -/
theorem EndsGroup.exists_eq_append {w q u tail : Text} (htail : EndsGroup tail) (hw : ')' ∉ w)
    (h : q ++ tail = w ++ u) : ∃ v, q = w ++ v := by
  obtain ⟨v, hv⟩ := (htail.prefix_append_iff hw).1 ⟨u, h.symm⟩
  exact ⟨v, hv.symm⟩

/-- A choice by some next characters, none of which is a closing parenthesis. -/
theorem local_onWord_succ {w : Text} {yes yes' no no' : Reader α} (hne : w ≠ []) (hw : ')' ∉ w)
    (hyes : LocalWhen settled bound yes yes') (hno : LocalWhen settled (bound + 1) no no') :
    LocalWhen settled (bound + 1) (onWord w yes no) (onWord w yes' no') where
  suffix := by
    intro t rest a h
    rw [onWord] at h
    split at h
    · exact (hyes.suffix h).trans (List.drop_suffix _ t)
    · exact hno.suffix h
  exchange := by
    intro q r q' tail a hlt htail hset h
    -- the word has no parenthesis, so it stands in front of the seam or not at all
    simp only [onWord, (endsGroup_cons r).prefix_append_iff hw] at h
    simp only [onWord, htail.prefix_append_iff hw]
    split at h
    next hprefix =>
      have hle := hprefix.length_le
      have hpos := List.length_pos_iff.2 hne
      rw [if_pos hprefix]
      rw [List.drop_append_of_le_length hle] at h ⊢
      exact hyes.exchange (by rw [List.length_drop]; omega) htail hset h
    next hprefix =>
      rw [if_neg hprefix]
      exact hno.exchange hlt htail hset h

/-- Where the length of the text is the fuel, there is enough of it. -/
theorem local_fuel {R : Nat → Reader α} (extra : Nat)
    (h : ∀ n m, LocalWhen settled (m + 1 - extra) (R n) (R m)) :
    LocalWhen settled bound (fun t => R (t.length + extra) t) (fun t => R (t.length + extra) t) where
  suffix hread := (h _ 0).suffix hread
  exchange _ htail hset hread := (h _ _).exchange (by simp; omega) htail hset hread

/-- A reader with fuel that has no value when it runs out of it. -/
theorem local_of_fuel {ι : Type} {R : Nat → ι → Reader α} (hzero : ∀ i t, R 0 i t = none)
    (hsucc : ∀ n m, (∀ k ≤ n, ∀ m i, LocalWhen settled m (R k i) (R m i)) →
      ∀ i, LocalWhen settled (m + 1) (R (n + 1) i) (R (m + 1) i)) (n m : Nat) (i : ι) :
    LocalWhen settled m (R n i) (R m i) := by
  induction n using Nat.strongRecOn generalizing m i with
  | ind n ih =>
    cases n with
    | zero =>
      exact ⟨fun h => by simp [hzero] at h, fun _ _ _ h => by simp [hzero] at h⟩
    | succ n =>
      have hstep := hsucc n (m - 1) fun k hk m i => ih k (Nat.lt_succ_of_le hk) m i
      cases m with
      | zero => exact ⟨(hstep i).suffix, fun hlt => absurd hlt (Nat.not_lt_zero _)⟩
      | succ m => exact hstep i

/-- A reader that goes on with itself for texts that are shorter. -/
theorem local_of_rec {ι : Type} {R : ι → Reader α}
    (hsuffix : ∀ i {t rest a}, R i t = some (a, rest) → rest <:+ t)
    (hsucc : ∀ bound, (∀ i, LocalWhen settled bound (R i) (R i)) →
      ∀ i, LocalWhen settled (bound + 1) (R i) (R i)) (bound : Nat) (i : ι) :
    LocalWhen settled bound (R i) (R i) := by
  induction bound generalizing i with
  | zero => exact ⟨hsuffix i, fun hlt => absurd hlt (Nat.not_lt_zero _)⟩
  | succ bound ih => exact hsucc bound ih i

/-! ### What is left out -/

/-- Leaving out blanks and comments leaves the end of the text. -/
theorem skipBlanks_suffix (inComment : Bool) (t : Text) : Flags.skipBlanks inComment t <:+ t := by
  induction t generalizing inComment with
  | nil => exact List.suffix_rfl
  | cons c t ih =>
    rw [Flags.skipBlanks]
    split
    · exact (ih _).trans (List.suffix_cons c t)
    split
    · exact (ih _).trans (List.suffix_cons c t)
    split
    · exact (ih _).trans (List.suffix_cons c t)
    · exact List.suffix_rfl

/-- What the flags leave out stands at the beginning. -/
theorem skip_suffix (flags : Flags) (t : Text) : flags.skip t <:+ t := by
  rw [Flags.skip]
  split
  · exact skipBlanks_suffix _ t
  · exact List.suffix_rfl

/-- A closing parenthesis that is no part of a comment ends what is left out, and so does the end of
the text. -/
theorem skipBlanks_exchange {inComment : Bool} {q r q' tail : Text} (htail : EndsGroup tail)
    (h : Flags.skipBlanks inComment (q ++ ')' :: r) = q' ++ ')' :: r) :
    Flags.skipBlanks inComment (q ++ tail) = q' ++ tail := by
  induction q generalizing inComment with
  | nil =>
    cases inComment with
    | true =>
      -- the comment goes on behind the parenthesis
      have hlen := (skipBlanks_suffix (')' ≠ '\n') r).length_le
      rw [List.nil_append, Flags.skipBlanks, if_pos rfl] at h
      rw [h] at hlen
      simp at hlen
      omega
    | false =>
      have hq : [] = q' := List.append_cancel_right (h : [] ++ ')' :: r = q' ++ ')' :: r)
      subst hq
      rcases htail.cases with rfl | ⟨r', rfl⟩ <;> rfl
  | cons c q ih =>
    rw [List.cons_append, Flags.skipBlanks] at h ⊢
    split at h
    next hcomment => rw [if_pos hcomment]; exact ih h
    next hcomment =>
    rw [if_neg hcomment]
    split at h
    next hblank => rw [if_pos hblank]; exact ih h
    next hblank =>
    rw [if_neg hblank]
    split at h
    next hhash => rw [if_pos hhash]; exact ih h
    next hhash =>
      rw [if_neg hhash]
      have hq : c :: q = q' := List.append_cancel_right (h : c :: q ++ ')' :: r = q' ++ ')' :: r)
      rw [← hq]
      rfl

/-- What is left out in front of a parenthesis is left out in front of any end of the group. -/
theorem skip_exchange {flags : Flags} {q r q' tail : Text} (htail : EndsGroup tail)
    (h : flags.skip (q ++ ')' :: r) = q' ++ ')' :: r) : flags.skip (q ++ tail) = q' ++ tail := by
  rw [Flags.skip] at h ⊢
  split at h
  next hspaced => rw [if_pos hspaced]; exact skipBlanks_exchange htail h
  next hspaced => rw [if_neg hspaced, List.append_cancel_right h]

/-- Leaving out is local. -/
theorem local_skipping (flags : Flags) : Local bound (skipping flags) (skipping flags) where
  suffix := by
    intro t rest _ h
    obtain ⟨-, rfl⟩ := Prod.mk.inj (Option.some.inj h)
    exact skip_suffix flags t
  exchange := by
    intro q r q' tail _ _ htail _ h
    obtain ⟨-, hskip⟩ := Prod.mk.inj (Option.some.inj h)
    rw [skipping, skip_exchange htail hskip]

/-- Characters that are no parentheses are dropped alike in front of any end of the group. -/
theorem dropWhile_exchange {p : Char → Bool} (hp : p ')' = false) {q r q' tail : Text}
    (htail : EndsGroup tail) (h : (q ++ ')' :: r).dropWhile p = q' ++ ')' :: r) :
    (q ++ tail).dropWhile p = q' ++ tail := by
  induction q with
  | nil =>
    rw [List.nil_append, List.dropWhile_cons_of_neg (by simp [hp])] at h
    have hq : [] = q' := List.append_cancel_right (h : [] ++ ')' :: r = q' ++ ')' :: r)
    subst hq
    rcases htail.cases with rfl | ⟨r', rfl⟩
    · rfl
    · exact List.dropWhile_cons_of_neg (by simp [hp])
  | cons c q ih =>
    rw [List.cons_append, List.dropWhile_cons] at h ⊢
    split at h
    next hc => rw [if_pos hc]; exact ih h
    next hc =>
      have hq : c :: q = q' := List.append_cancel_right (h : c :: q ++ ')' :: r = q' ++ ')' :: r)
      rw [if_neg hc, ← hq]
      rfl

/-- Reading blanks is local. -/
theorem local_blanks : Local bound blanks blanks where
  suffix := by
    intro t rest _ h
    obtain ⟨-, rfl⟩ := Prod.mk.inj (Option.some.inj h)
    exact List.dropWhile_suffix _
  exchange := by
    intro q r q' tail _ _ htail _ h
    obtain ⟨-, hdrop⟩ := Prod.mk.inj (Option.some.inj h)
    rw [blanks, dropWhile_exchange (by decide +kernel) htail hdrop]

/-! ### Runs of characters of one kind -/

variable {flags : Flags} {p : Char → Bool} {f : Char → β → β} {z : β} {n m : Nat} {t : Text}

/-- What a run of characters of one kind adds up to, and what follows it. -/
def gather (flags : Flags) (p : Char → Bool) (f : Char → β → β) (z : β) : Nat → Text → β × Text
  | 0, t => (z, t)
  | _ + 1, [] => (z, [])
  | n + 1, c :: t =>
    if p c then
      let (b, rest) := gather flags p f z n (flags.skip t)
      (f c b, rest)
    else (z, c :: t)

/-- Fuel for the whole text is enough to gather characters. -/
theorem gather_fuel (hn : t.length ≤ n) (hm : t.length ≤ m) :
    gather flags p f z n t = gather flags p f z m t := by
  induction n generalizing m t with
  | zero =>
    obtain rfl : t = [] := List.length_eq_zero_iff.1 (Nat.le_zero.1 hn)
    cases m <;> rfl
  | succ n ih =>
    cases t with
    | nil => cases m <;> rfl
    | cons c t =>
      obtain ⟨m, rfl⟩ : ∃ k, m = k + 1 := ⟨m - 1, by simp at hm; omega⟩
      have hskip := (skip_suffix flags t).length_le
      simp only [List.length_cons, Nat.add_le_add_iff_right] at hn hm
      rw [gather, gather, ih (m := m) (by omega) (by omega)]

/-- What is left after gathering is the end of the text. -/
theorem gather_suffix (n : Nat) (t : Text) : (gather flags p f z n t).2 <:+ t := by
  induction n generalizing t with
  | zero => exact List.suffix_rfl
  | succ n ih =>
    cases t with
    | nil => exact List.suffix_rfl
    | cons c t =>
      rw [gather]
      split
      · exact (ih _).trans ((skip_suffix flags t).trans (List.suffix_cons c t))
      · exact List.suffix_rfl

/-- A run of characters of one kind, to its end. -/
def gathered (flags : Flags) (p : Char → Bool) (f : Char → β → β) (z : β) : Reader β :=
  fun t => some (gather flags p f z t.length t)

/-- Gathering takes a character and goes on, or stops. -/
theorem gathered_eq : gathered flags p f z = branch p
    (fun c => do
      skipping flags
      let b ← gathered flags p f z
      return f c b)
    (pure z) := by
  funext t
  cases t with
  | nil => rfl
  | cons c t =>
    have hskip := (skip_suffix flags t).length_le
    rw [gathered, List.length_cons, gather, branch, gather_fuel hskip (Nat.le_refl _)]
    split <;> rfl

/-- Gathering characters that are no parentheses is local. -/
theorem local_gathered : Local bound (gathered flags p f z) (gathered flags p f z) := by
  refine local_of_rec (R := fun _ : Unit => gathered flags p f z) (fun _ {t rest _} h => ?_)
    (fun bound ih _ => ?_) bound ()
  · have heq : (gather flags p f z t.length t).2 = rest := congrArg Prod.snd (Option.some.inj h)
    exact heq ▸ gather_suffix t.length t
  · rw [gathered_eq]
    exact local_branch_succ (fun c => (local_skipping flags).bind fun _ => (ih ()).bind fun b =>
      local_pure _) (local_pure z)

end

end ServletRoutes.Pattern
