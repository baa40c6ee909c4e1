import ServletRoutes.Proofs.Pattern.Matching
import ServletRoutes.Proofs.Pattern.Locality.Group

/-!
# `ServletRoutes.Proofs.Pattern.Written`: whole patterns

`Written t e` says that the text `t` is a pattern by itself and means `e`,
whatever room it takes. A text is `Stray` that is no pattern because one of its
parentheses closes none of its groups, with a whole pattern before it.

A group is read as what stands in it would be read by itself
(`written_of_group`). A text that is put into a group and ends it too early is
stray (`stray_of_group`). Both follow from the locality of readers. The depth of
a whole bounds that of its groups (`Progress.rest_within`), so that the limit of
the whole is kept by what stands in them.
-/

set_option autoImplicit false

namespace ServletRoutes.Pattern

open Reader Relation

variable {α β : Type} {t : Text} {e : Expr}

/-! ### Texts that are patterns -/

/-- The text is a pattern by itself and means this. -/
def Written (t : Text) (e : Expr) : Prop :=
  ∃ depth names, depth ≤ depthLimit ∧
    readGroup? (t.length + 1) {} [] [] [] t = some (⟨some e, depth⟩, names, [])

/-- The text is no pattern by itself, but what stands before one of its closing parentheses is. -/
def Stray (t : Text) : Prop :=
  read t = .error .malformed ∧ ∃ front back e, t = front ++ ')' :: back ∧ Written front e

/-- Only the room that it takes keeps a pattern from being accepted. -/
theorem Written.read_eq (h : Written t e) :
    read t = if e.fits then .ok e else .error .tooLarge := by
  obtain ⟨depth, names, hdepth, hread⟩ := h
  rw [read, hread]
  exact if_neg (Nat.not_lt.2 hdepth)

/-- What is accepted is a pattern by itself. -/
theorem written_of_read (h : read t = .ok e) : Written t e := by
  rw [read] at h
  split at h
  next e' depth names hread =>
    split at h
    · cases h
    next hdepth =>
      split at h
      · cases h
        exact ⟨depth, names, Nat.not_lt.1 hdepth, hread⟩
      · cases h
  next => cases h

/-- A pattern by itself is not malformed. -/
theorem Written.ne_malformed (h : Written t e) : read t ≠ .error .malformed := by
  rw [h.read_eq]
  split <;> exact nofun

/-- A pattern by itself is not stray. -/
theorem Written.not_stray (h : Written t e) : ¬ Stray t := fun hstray => h.ne_malformed hstray.1

/-! ### Groups and patterns -/

section

variable {n m depth : Nat} {names names' : List Text} {part : Part} {q r tail : Text}

/-- Reading the rest of a group is reading a group from what has been read of it. -/
theorem Progress.rest_eq_some_iff {flags : Flags} {parts branches : List Part} {u : Text} :
    Progress.rest ⟨flags, names, parts, branches⟩ n t = some ((part, names'), u) ↔
      readGroup? n flags names parts branches t = some (part, names', u) := by
  simp [Progress.rest, ofTriple, and_assoc]

/-- What is read of a group in front of its closing parenthesis is read in front of any other end. -/
theorem readGroup?_exchange (hlt : q.length < m) (htail : EndsGroup tail)
    (h : readGroup? n {} names [] [] (q ++ ')' :: r) = some (part, names', ')' :: r)) :
    readGroup? m {} names [] [] (q ++ tail) = some (part, names', tail) := by
  have hlocal : Local m (Progress.rest ⟨{}, names, [], []⟩ n) (Progress.rest ⟨{}, names, [], []⟩ m) :=
    Progress.local_rest n m _
  have hgroup : Progress.rest ⟨{}, names, [], []⟩ n (q ++ ')' :: r) =
      some ((part, names'), [] ++ ')' :: r) := Progress.rest_eq_some_iff.2 h
  exact Progress.rest_eq_some_iff.1 (hlocal.exchange hlt htail trivial hgroup)

/-- What stands in a group is a pattern by itself, where no flags are set around the group. -/
theorem written_of_group (hdepth : depth ≤ depthLimit)
    (h : readGroup? n {} [] [] [] (q ++ ')' :: r) = some (⟨some e, depth⟩, names, ')' :: r)) :
    Written q e := by
  have hread := readGroup?_exchange (Nat.lt_succ_self q.length) endsGroup_nil h
  rw [List.append_nil] at hread
  exact ⟨depth, names, hdepth, hread⟩

/-- Where a group ends, what goes on with its closing parenthesis is stray by itself. -/
theorem stray_of_group {back : Text} (hdepth : depth ≤ depthLimit)
    (h : readGroup? n {} [] [] [] (q ++ ')' :: r) = some (⟨some e, depth⟩, names, ')' :: r)) :
    Stray (q ++ ')' :: back) := by
  refine ⟨?_, q, back, e, rfl, written_of_group hdepth h⟩
  have hlt : q.length < (q ++ ')' :: back).length + 1 := by
    rw [List.length_append]
    omega
  rw [read, readGroup?_exchange hlt (endsGroup_cons back) h]

end

/-! ### Depth -/

/-- Whatever the reader gives has the property. -/
def Reader.Ensures (f : Reader α) (P : α → Prop) : Prop := ∀ t a rest, f t = some (a, rest) → P a

namespace Reader.Ensures

variable {f yes no : Reader α} {k : α → Reader β} {P P' : α → Prop} {Q : β → Prop}

/-- A reader ensures what follows from what it ensures. -/
theorem mono (h : f.Ensures P) (hP : ∀ a, P a → P' a) : f.Ensures P' :=
  fun t a rest ha => hP a (h t a rest ha)

/-- Readers one after the other ensure what the last one does. -/
theorem bind (hk : ∀ a, (k a).Ensures Q) : (f >>= k).Ensures Q := by
  intro t b rest h
  obtain ⟨a, mid, -, hread⟩ := bind_eq_some_iff.1 h
  exact hk a mid b rest hread

/-- Behind a value that has to be there, what is ensured may depend on it. -/
theorem bindOption {value : Option α} (hk : ∀ a, value = some a → (k a).Ensures Q) :
    (ofOption value >>= k).Ensures Q := by
  intro t b rest h
  obtain ⟨a, mid, hvalue, hread⟩ := bind_eq_some_iff.1 h
  exact hk a (ofOption_eq_some_iff.1 hvalue).1 mid b rest hread

/-- A choice ensures what both readers do. -/
theorem ite {p : Prop} [Decidable p] (hyes : yes.Ensures P) (hno : no.Ensures P) :
    (if p then yes else no).Ensures P := by
  split
  · exact hyes
  · exact hno

/-- A choice by the next character ensures what both ways do. -/
theorem on {c : Char} (hyes : yes.Ensures P) (hno : no.Ensures P) :
    (Reader.on c yes no).Ensures P := by
  intro t a rest h
  cases t with
  | nil => exact hno [] a rest h
  | cons d t =>
    rw [on_cons] at h
    split at h
    · exact hyes t a rest h
    · exact hno (d :: t) a rest h

/-- A value ensures what holds of it. -/
theorem pure {a : α} (h : P a) : (Pure.pure a : Reader α).Ensures P := by
  intro t b rest hb
  obtain ⟨rfl, -⟩ := Prod.mk.inj (Option.some.inj hb)
  exact h

/-- Failing ensures everything. -/
theorem none : (ofOption (Option.none : Option α)).Ensures P := fun t a rest h => by simp at h

end Reader.Ensures

/-- The deepest of some parts is as deep as each of them. -/
theorem le_foldl_depth (parts : List Part) (d : Nat) :
    d ≤ parts.foldl (fun d p => max d p.depth) d ∧
      ∀ p ∈ parts, p.depth ≤ parts.foldl (fun d p => max d p.depth) d := by
  induction parts generalizing d with
  | nil => simp
  | cons p parts ih =>
    obtain ⟨hstart, hrest⟩ := ih (max d p.depth)
    rw [List.foldl_cons, List.forall_mem_cons]
    exact ⟨by omega, by omega, hrest⟩

/-- Parts together nest as deep as each of them. -/
theorem depth_le_levelOf {parts : List Part} {p : Part} (hp : p ∈ parts) :
    p.depth ≤ levelOf parts := by
  have hle := (le_foldl_depth parts 0).2 p hp
  rw [levelOf]
  split <;> omega

namespace Progress

variable {i : Progress} {d : Nat}

/-- Nothing read so far nests deeper than that. -/
def Within (d : Nat) (i : Progress) : Prop :=
  (∀ p ∈ i.parts, p.depth ≤ d) ∧ ∀ p ∈ i.branches, p.depth ≤ d

/-- What holds with one more part holds without it. -/
theorem Within.of_push {p : Part} (h : (i.push p).Within d) : i.Within d :=
  ⟨(List.forall_mem_cons.1 h.1).2, h.2⟩

/-- What holds in the next branch holds in the one before it. -/
theorem Within.of_nextBranch (h : i.nextBranch.Within d) : i.Within d := by
  obtain ⟨hsequence, hbranches⟩ := List.forall_mem_cons.1 h.2
  exact ⟨fun p hp => Nat.le_trans (depth_le_levelOf hp) hsequence, hbranches⟩

/-- What holds behind a repetition of the last part holds in front of it. -/
theorem Within.of_repeatLast? {least : Nat} {most : Option Nat} {isLazy : Bool} {parts : List Part}
    (hparts : repeatLast? least most isLazy i.parts = some parts)
    (h : Within d { i with parts }) : i.Within d := by
  refine ⟨?_, h.2⟩
  cases hi : i.parts with
  | nil => simp
  | cons part before =>
    obtain ⟨expr, depth⟩ := part
    cases expr with
    | none => simp [hi, repeatLast?] at hparts
    | some e =>
      rw [hi, repeatLast?, Option.some.injEq] at hparts
      obtain ⟨hlast, hbefore⟩ := List.forall_mem_cons.1 (hparts ▸ h.1)
      exact List.forall_mem_cons.2 ⟨Nat.le_of_succ_le hlast, hbefore⟩

/-- What is read of a group nests as deep as everything in it. -/
theorem within_choice (i : Progress) : i.Within (choice i.parts i.branches).depth := by
  have hlevel : (choice i.parts i.branches).depth = levelOf (sequence i.parts :: i.branches) := rfl
  rw [hlevel]
  exact Within.of_nextBranch ⟨by simp [nextBranch], fun p hp => depth_le_levelOf hp⟩

/-- A group nests as deep as all that is read of it. -/
theorem rest_within (n : Nat) (i : Progress) :
    (i.rest n).Ensures fun x => i.Within x.1.depth := by
  induction n generalizing i with
  | zero => exact fun t x u h => absurd h (by simp [rest, ofTriple, readGroup?])
  | succ n ih =>
    have hpush (part : Part) : ((i.push part).rest n).Ensures fun x => i.Within x.1.depth :=
      (ih _).mono fun _ => Within.of_push
    have hrepeated (least : Nat) (most : Option Nat) :
        (i.repeated n least most).Ensures fun x => i.Within x.1.depth :=
      .bind fun isMarked => .bindOption fun parts hparts =>
        (ih _).mono fun _ => Within.of_repeatLast? hparts
    have hopened : (i.opened n).Ensures fun x => i.Within x.1.depth := by
      refine .bind fun _ => .bind ?_
      rintro ⟨flags, _ | group⟩
      · exact (ih _).mono fun _ => Within.of_push (p := .flags)
      · exact .bind fun inner => .on (.bindOption fun e _ =>
          (ih _).mono fun _ => Within.of_push) .none
    -- the operators in turn, as they are told apart
    rw [rest_succ]
    refine .bind fun _ => .bind fun ends => .ite (.pure (within_choice i)) <|
      .on ((ih _).mono fun _ => Within.of_nextBranch) <| .on hopened <|
      .on (.bind fun part => hpush _) <| .on (hrepeated _ _) <| .on (hrepeated _ _) <|
      .on (hrepeated _ _) <| .on (.bind fun _ => hrepeated _ _) <| .bind fun e => hpush _

end Progress

/-! ### Sequences -/

namespace Expr

variable {f : Expr}

/-- A sequence that ends with something is not empty. -/
theorem andThen_ne_empty (h : f ≠ empty) : e.andThen f ≠ empty := by
  fun_induction Expr.andThen e f with
  | case1 f => exact h
  | case2 e => exact absurd rfl h
  | case3 first second f _ ihSecond ihFirst => exact ihFirst (ihSecond h)
  | case4 | case5 | case6 => exact nofun

/-- A test of the spot in front of something stays a part of its own. -/
theorem spot_andThen (test : Spot) (h : f ≠ empty) : (spot test).andThen f = seq (spot test) f := by
  cases f with
  | empty => exact absurd rfl h
  | _ => rfl

/-- A choice with one way only is that way. -/
theorem eitherOf_seq (first second : Expr) : eitherOf [seq first second] = seq first second := rfl

/-- A sequence matches what its parts match one after the other. -/
theorem matches_andThen (text : Text) (e f : Expr) :
    (e.andThen f).Matches text = Comp (e.Matches text) (f.Matches text) := by
  fun_induction Expr.andThen e f with
  | case1 f => exact Relation.eq_comp.symm
  | case2 e => exact Relation.comp_eq.symm
  | case3 first second f _ ihSecond ihFirst =>
    rw [ihFirst, ihSecond, ← Relation.comp_assoc]
    rfl
  | case4 s t => rw [← inTurn_word, List.map_append, Marked.inTurn_append, inTurn_word, inTurn_word]
  | case5 s t f =>
    show Comp (Matches text (word (s ++ t))) (f.Matches text) = _
    rw [← inTurn_word, List.map_append, Marked.inTurn_append, inTurn_word, inTurn_word,
      Relation.comp_assoc]
    rfl
  | case6 => rfl

end Expr

end ServletRoutes.Pattern
