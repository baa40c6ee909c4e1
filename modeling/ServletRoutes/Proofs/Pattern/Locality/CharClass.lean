import Mathlib.Data.List.TakeDrop
import ServletRoutes.Proofs.Pattern.Locality.Escape

/-!
# `ServletRoutes.Proofs.Pattern.Locality.CharClass`: classes are local

A class in square brackets is read the same whatever end of a group follows.
Two of its readers look ahead: a hyphen stands for itself in front of another
one or of the closing bracket (`peek?_append`), and what begins like a named
ASCII class is one only if its name is known (`asciiClass?_append`). Neither is
misled, because a closing parenthesis is no part of what they look for.
-/

set_option autoImplicit false

namespace ServletRoutes.Pattern

open Reader

variable {α : Type} {flags : Flags} {bound : Nat} {q tail : Text}

/-! ### Named ASCII classes -/

/-- No name of an ASCII class has a closing parenthesis in it. -/
theorem parenthesis_notMem_asciiClasses :
    ∀ named ∈ asciiClasses, ')' ∉ named.1.toList := by
  decide

/-- The name of an ASCII class, up to the colon and the bracket behind it. -/
def asciiName? (t : Text) : Option (CharSet × Text) :=
  match t.dropWhile (· ≠ ':') with
  | ':' :: ']' :: rest =>
    (asciiClasses.find? fun named => named.1.toList = t.takeWhile (· ≠ ':')).map fun named =>
      (.ofRanges named.2, rest)
  | _ => none

/-- No class has a name with a parenthesis in it. -/
theorem asciiName?_of_mem {t : Text} (h : ')' ∈ t.takeWhile (· ≠ ':')) : asciiName? t = none := by
  have hfind : (asciiClasses.find? fun named => named.1.toList = t.takeWhile (· ≠ ':')) = none := by
    refine List.find?_eq_none.2 fun named hmem heq => ?_
    rw [decide_eq_true_eq] at heq
    exact parenthesis_notMem_asciiClasses named hmem (heq ▸ h)
  rw [asciiName?]
  split
  · rw [hfind]
    rfl
  · rfl

/-- The name of an ASCII class is the same whatever end of a group follows. -/
theorem asciiName?_append (htail : EndsGroup tail) :
    asciiName? (q ++ tail) = (asciiName? q).map fun x => (x.1, x.2 ++ tail) := by
  cases hdrop : q.dropWhile (· ≠ ':') with
  | nil =>
    -- without a colon there is no name, and none comes with the end of a group
    have htake : q.takeWhile (· ≠ ':') = q := by
      have happend := List.takeWhile_append_dropWhile (p := (· ≠ ':')) (l := q)
      rwa [hdrop, List.append_nil] at happend
    have hnone : asciiName? q = none := by rw [asciiName?, hdrop]
    rw [hnone]
    rcases htail.cases with rfl | ⟨r, rfl⟩
    · rw [List.append_nil, hnone]
      rfl
    · refine asciiName?_of_mem ?_
      rw [List.takeWhile_append, htake, if_pos rfl, List.takeWhile_cons_of_pos (by decide)]
      simp
  | cons d rest =>
    have htake : (q ++ tail).takeWhile (· ≠ ':') = q.takeWhile (· ≠ ':') := by
      have hlen := congrArg List.length (List.takeWhile_append_dropWhile (p := (· ≠ ':')) (l := q))
      rw [List.length_append, hdrop, List.length_cons] at hlen
      rw [List.takeWhile_append, if_neg (by omega)]
    have hdrop' : (q ++ tail).dropWhile (· ≠ ':') = d :: rest ++ tail := by
      rw [List.dropWhile_append, hdrop, if_neg (by simp)]
    rw [asciiName?, asciiName?, htake, hdrop, hdrop']
    by_cases hclosed : ∃ rest', d :: rest = ':' :: ']' :: rest'
    · obtain ⟨rest', heq⟩ := hclosed
      obtain ⟨rfl, rfl⟩ := List.cons_eq_cons.1 heq
      simp [Function.comp_def]
    · -- the bracket is missing, and the end of a group has none either
      have hopen : ∀ rest', d :: rest ++ tail = ':' :: ']' :: rest' → False :=
        fun _ heq => hclosed (htail.exists_eq_append (w := [':', ']']) (by decide) heq)
      split
      next heq => exact absurd heq (hopen _)
      split
      next heq => exact absurd ⟨_, heq⟩ hclosed
      · rfl

/-- Behind a caret the class that is named is negated. -/
theorem asciiClass?_negated (t : Text) :
    asciiClass? (':' :: '^' :: t) = (asciiName? t).map fun x => (true, x.1, x.2) := by
  simp only [asciiClass?, List.span_eq_takeWhile_dropWhile, asciiName?]
  split <;> simp_all [Function.comp_def]

/-- Without a caret the class that is named is taken as it is. -/
theorem asciiClass?_plain {t : Text} (h : ∀ u, t = '^' :: u → False) :
    asciiClass? (':' :: t) = (asciiName? t).map fun x => (false, x.1, x.2) := by
  simp only [asciiClass?, List.span_eq_takeWhile_dropWhile, asciiName?]
  split <;> simp_all [Function.comp_def]

/-- The end of a group makes no named class of what is none, nor another one of what is one. -/
theorem asciiClass?_append (htail : EndsGroup tail) :
    asciiClass? (q ++ tail) = (asciiClass? q).map fun x => (x.1, x.2.1, x.2.2 ++ tail) := by
  cases q with
  | nil => rcases htail.cases with rfl | ⟨r, rfl⟩ <;> rfl
  | cons c q =>
    by_cases hc : c = ':'
    · subst hc
      by_cases hnegated : ∃ u, q = '^' :: u
      · obtain ⟨u, rfl⟩ := hnegated
        rw [List.cons_append, List.cons_append, asciiClass?_negated, asciiClass?_negated,
          asciiName?_append htail, Option.map_map, Option.map_map]
        rfl
      · have hplain : ∀ u, q ++ tail = '^' :: u → False :=
          fun _ heq => hnegated (htail.exists_eq_append (w := ['^']) (by decide) heq)
        rw [List.cons_append, asciiClass?_plain hplain,
          asciiClass?_plain fun u heq => hnegated ⟨u, heq⟩,
          asciiName?_append htail, Option.map_map, Option.map_map]
        rfl
    · simp [asciiClass?, hc]

/-- A named ASCII class, if there is one. -/
def named? : Reader (Option (Bool × CharSet)) := fun t =>
  match asciiClass? t with
  | some (negated, set, rest) => some (some (negated, set), rest)
  | none => some (none, t)

/-- What is left behind the name of a class is the end of what there was. -/
theorem asciiName?_suffix {t rest : Text} {set : CharSet} (h : asciiName? t = some (set, rest)) :
    rest <:+ t := by
  rw [asciiName?] at h
  split at h
  next rest' heq =>
    obtain ⟨named, -, hnamed⟩ := Option.map_eq_some_iff.1 h
    obtain ⟨-, rfl⟩ := Prod.mk.inj hnamed
    have hdrop : ':' :: ']' :: rest' <:+ t := heq ▸ List.dropWhile_suffix _
    exact ((List.suffix_cons _ _).trans (List.suffix_cons _ _)).trans hdrop
  next => exact absurd h (by simp)

/-- What is left behind a named class is the end of what there was. -/
theorem asciiClass?_suffix {t rest : Text} {negated : Bool} {set : CharSet}
    (h : asciiClass? t = some (negated, set, rest)) : rest <:+ t := by
  cases t with
  | nil => exact absurd h (by simp [asciiClass?])
  | cons c t =>
    by_cases hc : c = ':'
    · subst hc
      by_cases hnegated : ∃ u, t = '^' :: u
      · obtain ⟨u, rfl⟩ := hnegated
        rw [asciiClass?_negated] at h
        obtain ⟨⟨set', rest'⟩, hname, heq⟩ := Option.map_eq_some_iff.1 h
        simp only [Prod.mk.injEq] at heq
        obtain ⟨-, -, rfl⟩ := heq
        exact (asciiName?_suffix hname).trans ((List.suffix_cons _ _).trans (List.suffix_cons _ _))
      · rw [asciiClass?_plain fun u heq => hnegated ⟨u, heq⟩] at h
        obtain ⟨⟨set', rest'⟩, hname, heq⟩ := Option.map_eq_some_iff.1 h
        simp only [Prod.mk.injEq] at heq
        obtain ⟨-, -, rfl⟩ := heq
        exact (asciiName?_suffix hname).trans (List.suffix_cons _ _)
    · exact absurd h (by simp [asciiClass?, hc])

/-- Whether a named class comes next is local. -/
theorem local_named? : Local bound named? named? where
  suffix := by
    intro t rest a h
    rw [named?] at h
    split at h
    next heq =>
      obtain ⟨-, rfl⟩ := Prod.mk.inj (Option.some.inj h)
      exact asciiClass?_suffix heq
    next => exact (Prod.mk.inj (Option.some.inj h)).2 ▸ List.suffix_rfl
  exchange := by
    intro q r q' tail a _ htail _ h
    -- a name ends in front of the seam, or there is none whatever follows
    rw [named?, asciiClass?_append (endsGroup_cons r)] at h
    rw [named?, asciiClass?_append htail]
    cases hq : asciiClass? q with
    | none =>
      rw [hq] at h
      obtain ⟨rfl, heq⟩ := Prod.mk.inj (Option.some.inj h)
      rw [List.append_cancel_right heq]
      rfl
    | some x =>
      rw [hq] at h
      obtain ⟨rfl, heq⟩ := Prod.mk.inj (Option.some.inj h)
      rw [← List.append_cancel_right heq]
      rfl

/-! ### Ranges -/

/-- A closing parenthesis is no blank. -/
theorem isBlank_parenthesis : Unicode.isBlank ')' = false := by decide +kernel

/-- The first character that is no blank is found in front of the end of the group, or not at
all. -/
theorem head?_dropWhile_append {c : Char} (htail : EndsGroup tail) (hend : c ≠ ')') :
    ((q ++ tail).dropWhile Unicode.isBlank).head? = some c ↔
      (q.dropWhile Unicode.isBlank).head? = some c := by
  rw [List.dropWhile_append]
  cases q.dropWhile Unicode.isBlank with
  | nil =>
    rcases htail.cases with rfl | ⟨r, rfl⟩
    · rfl
    · simp [isBlank_parenthesis, hend.symm]
  | cons d rest => rfl

/-- What a look ahead sees where blanks and comments are left out: the next character that is no blank,
or the one behind the beginning of a comment. -/
theorem peek?_eq_some_iff {t : Text} {c : Char} (hspaced : flags.spaced = true)
    (hblank : Unicode.isBlank c = false) (hcomment : c ≠ '#') :
    flags.peek? t = some c ↔ (t.dropWhile Unicode.isBlank).head? = some c ∨
      ∃ u, t.dropWhile Unicode.isBlank = '#' :: u ∧
        (u.dropWhile Unicode.isBlank).head? = some c := by
  have hhead (h : t.head? = some c) : (t.dropWhile Unicode.isBlank).head? = some c := by
    obtain ⟨u, rfl⟩ := List.head?_eq_some_iff.1 h
    rw [List.dropWhile_cons_of_neg (by simp [hblank])]
    rfl
  rw [Flags.peek?, if_pos hspaced]
  split
  next hdrop =>
    rw [hdrop] at hhead ⊢
    exact ⟨fun h => .inl (hhead h), fun h => by simp at h⟩
  next u hdrop =>
    rw [hdrop] at hhead ⊢
    -- a comment comes next, so what is looked for is behind it
    have hne : t.head? ≠ some c := fun h => hcomment (Option.some.inj (hhead h)).symm
    cases hu : (u.dropWhile Unicode.isBlank).head? with
    | none => simp [hu, hne, hcomment.symm]
    | some d => simp [hu, hcomment.symm]
  next d u hd hdrop =>
    rw [hdrop]
    refine ⟨.inl, fun h => h.resolve_right ?_⟩
    rintro ⟨v, hv, -⟩
    exact hd (List.cons_eq_cons.1 hv).1

/-- Characters that do not end a group, are no blanks and begin no comment are seen by a look ahead
only if they stand before the end of the group. -/
theorem peek?_append {c : Char} (htail : EndsGroup tail) (hend : c ≠ ')')
    (hblank : Unicode.isBlank c = false) (hcomment : c ≠ '#') :
    flags.peek? (q ++ tail) = some c ↔ flags.peek? q = some c := by
  by_cases hspaced : flags.spaced = true
  · rw [peek?_eq_some_iff hspaced hblank hcomment, peek?_eq_some_iff hspaced hblank hcomment,
      head?_dropWhile_append htail hend]
    refine or_congr_right ?_
    rw [List.dropWhile_append]
    cases q.dropWhile Unicode.isBlank with
    | nil => rcases htail.cases with rfl | ⟨r, rfl⟩ <;> simp [isBlank_parenthesis]
    | cons d rest =>
      constructor
      · rintro ⟨u, hu, hhead⟩
        obtain ⟨rfl, rfl⟩ := List.cons_eq_cons.1 hu
        exact ⟨rest, rfl, (head?_dropWhile_append htail hend).1 hhead⟩
      · rintro ⟨u, hu, hhead⟩
        obtain ⟨rfl, rfl⟩ := List.cons_eq_cons.1 hu
        exact ⟨rest ++ tail, rfl, (head?_dropWhile_append htail hend).2 hhead⟩
  · rw [Flags.peek?, Flags.peek?, if_neg hspaced, if_neg hspaced]
    cases q with
    | nil => rcases htail.cases with rfl | ⟨r, rfl⟩ <;> simp [hend.symm]
    | cons d q => rfl

/-- A hyphen comes next that stands for a range. -/
def rangeAhead (flags : Flags) : Text → Bool
  | '-' :: t => !(flags.peek? t = some ']' || flags.peek? t = some '-')
  | _ => false

/-- Whether a hyphen stands for a range does not depend on the end of the group that follows. -/
theorem rangeAhead_append (htail : EndsGroup tail) :
    rangeAhead flags (q ++ tail) = rangeAhead flags q := by
  cases q with
  | nil => rcases htail.cases with rfl | ⟨r, rfl⟩ <;> rfl
  | cons c q =>
    by_cases hc : c = '-'
    · subst hc
      simp only [List.cons_append, rangeAhead,
        peek?_append (c := ']') htail (by decide) (by decide +kernel) (by decide),
        peek?_append (c := '-') htail (by decide) (by decide +kernel) (by decide)]
    · simp [rangeAhead, hc]

/-- What is seen without being read. -/
theorem local_ahead {see : Text → α} (h : ∀ {q tail}, EndsGroup tail → see (q ++ tail) = see q) :
    Local bound (fun t => some (see t, t)) (fun t => some (see t, t)) where
  suffix h := (Prod.mk.inj (Option.some.inj h)).2 ▸ List.suffix_rfl
  exchange := by
    intro q r q' tail a _ htail _ hsee
    obtain ⟨rfl, heq⟩ := Prod.mk.inj (Option.some.inj hsee)
    rw [← List.append_cancel_right heq, h htail, h (endsGroup_cons r)]

/-- A piece of a class is an escape or the next character. -/
theorem classPiece?_eq : classPiece? flags = on '\\' (escape? flags) (do
    let c ← next
    return .literal c) := by
  funext t
  cases t with
  | nil => rfl
  | cons c t => by_cases hc : c = '\\' <;> simp [classPiece?, on_cons, hc]

/-- A piece of a class is local where braces behind a word boundary are settled. -/
theorem local_classPiece? : LocalWhen (Told flags) bound (classPiece? flags) (classPiece? flags) := by
  rw [classPiece?_eq]
  exact local_on local_escape? (local_next.bind fun c => local_pure _).when

/-- A piece of a class takes a character at least. -/
theorem length_of_classPiece? {t rest : Text} {piece : Piece}
    (h : classPiece? flags t = some (piece, rest)) : rest.length + 1 ≤ t.length := by
  cases t with
  | nil => exact absurd h (by simp [classPiece?])
  | cons c t =>
    by_cases hc : c = '\\'
    · subst hc
      exact Nat.succ_le_succ ((local_escape? : LocalWhen _ 0 _ _).suffix h).length_le
    · simp only [classPiece?, Option.some.injEq, Prod.mk.injEq] at h
      exact h.2 ▸ Nat.le_refl _

/-- A piece of a class, or a range that begins with it. -/
def rangeFrom (flags : Flags) (first : Piece) : Reader CharSet := do
  skipping flags
  let ranged ← fun t => some (rangeAhead flags t, t)
  if ranged then do
    let _ ← next
    skipping flags
    let last ← classPiece? flags
    let low ← ofOption (first.char? flags)
    let high ← ofOption (last.char? flags)
    if low.toNat ≤ high.toNat then return .between low.toNat high.toNat else ofOption none
  else ofOption (first.set? flags)

/-- What follows a range is read further, so it makes no difference that something has to follow. -/
theorem classRange?_bind {k : CharSet → Reader α} (hk : ∀ set, k set [] = none) :
    (classRange? flags >>= k : Reader α) =
      (classPiece? flags >>= fun first => rangeFrom flags first >>= k) := by
  funext t
  simp only [bind_apply, classRange?, Option.bind_eq_bind, Option.bind_assoc]
  congr 1
  funext ⟨first, t⟩
  simp only [rangeFrom, bind_apply, skipping_apply, Option.bind_some]
  cases hskip : flags.skip t with
  | nil => simp [rangeAhead, Option.bind_assoc, hk]
  | cons c u =>
    by_cases hc : c = '-'
    · subst hc
      by_cases hbracket : flags.peek? u = some ']'
      · simp [rangeAhead, hbracket, Option.bind_assoc]
      by_cases hhyphen : flags.peek? u = some '-'
      · simp [rangeAhead, hhyphen, Option.bind_assoc]
      · simp only [rangeAhead, hbracket, hhyphen, decide_false, Bool.or_false, Bool.not_false]
        simp [Option.bind_assoc]
    · simp [rangeAhead, hc, Option.bind_assoc]

/-- A test of the spot is no part of a class. -/
theorem rangeFrom_spot (test : Spot) (t : Text) : rangeFrom flags (.spot test) t = none := by
  simp [rangeFrom, Piece.char?, Piece.set?]

/-- What follows the first piece of a range is local. -/
theorem local_rangeFrom (first : Piece) :
    Local bound (rangeFrom flags first) (rangeFrom flags first) := by
  refine (local_skipping flags).bind fun _ => (local_ahead rangeAhead_append).bind fun ranged =>
    .ite ?_ (local_ofOption _)
  refine local_next.bind fun _ => (local_skipping flags).bind fun _ =>
    local_classPiece?.bindSettled (fun last => ?_) ?_
  · exact (local_ofOption _).bind fun low => (local_ofOption _).bind fun high =>
      .ite (local_pure _) local_none
  · rintro _ t rest s b h _ _ test rfl
    simp [Piece.char?] at h

/-! ### Classes -/

/-- The hyphens at the beginning of a class are gathered as far as they reach. -/
theorem leadingHyphens_eq (n : Nat) (t : Text) :
    leadingHyphens flags n t = gather flags (· = '-') (fun _ k => k + 1) 0 n t := by
  induction n generalizing t with
  | zero => rfl
  | succ n ih =>
    cases t with
    | nil => rfl
    | cons c t => by_cases hc : c = '-' <;> simp [leadingHyphens, gather, hc, ih]

/-- The characters at the beginning of a class that stand for themselves. -/
def classLead (flags : Flags) (negated : Bool) : Reader (Bool × Union) := do
  let hyphens ← gathered flags (· = '-') (fun _ k => k + 1) 0
  if hyphens = 0 then
    on ']'
      (do
        skipping flags
        return (negated, ⟨.single ']', 1, 0⟩))
      (return (negated, {}))
  else return (negated, ⟨.single '-', hyphens, 0⟩)

/-- The beginning of a class behind its bracket. -/
def classStart (flags : Flags) : Reader (Bool × Union) :=
  fun t => some (((classHead flags t).1, (classHead flags t).2.1), (classHead flags t).2.2)

/-- The beginning of a class is a caret, which may be missing, and what stands for itself behind
it. -/
theorem classStart_eq : classStart flags = (do
    skipping flags
    let negated ← on '^' (do skipping flags; return true) (return false)
    classLead flags negated : Reader (Bool × Union)) := by
  funext t
  simp only [classStart, classHead, leadingHyphens_eq, bind_apply, skipping_apply, Option.bind_some]
  generalize flags.skip t = u
  rcases u with _ | ⟨c, u⟩
  · rfl
  by_cases hc : c = '^'
  case' pos => simp only [hc, on_cons_self, bind_apply, skipping_apply, Option.bind_some]
  case' neg => simp only [hc, on_cons, List.cons.injEq, false_and, imp_self, implies_true, if_false]
  -- the hyphens are told the same on both ways
  all_goals
    simp only [pure_apply, Option.bind_some, classLead, bind_apply, gathered]
    generalize gather flags (· = '-') (fun _ k => k + 1) 0 _ _ = hyphens
    obtain ⟨_ | k, rest⟩ := hyphens
    · by_cases hbracket : ∃ u, rest = ']' :: u
      · obtain ⟨u, rfl⟩ := hbracket
        simp [on_cons_self]
      · have hne : ∀ u, rest = ']' :: u → False := fun u hu => hbracket ⟨u, hu⟩
        simp [on_of_ne hne]
    · simp

/-- The beginning of a class is local. -/
theorem local_classStart : Local bound (classStart flags) (classStart flags) := by
  have hskip : Local bound (skipping flags) (skipping flags) := local_skipping flags
  rw [classStart_eq]
  refine hskip.bind fun _ => (local_on (hskip.bind fun _ => local_pure _) (local_pure _)).bind
    fun negated => local_gathered.bind fun hyphens => .ite ?_ (local_pure _)
  exact local_on (hskip.bind fun _ => local_pure _) (local_pure _)

section

variable {n : Nat}

/-- A part of a class has been read, and more of it follows. -/
def continued (flags : Flags) (n : Nat) (pending : Option (SetOperator × Nested)) (u : Union)
    (negated : Bool) (part : Nested) : Reader Nested := do
  let set ← ofOption (flags.signed? negated (flags.foldedSet part.set))
  classRest? flags n pending (u.insert ⟨set, part.depth⟩)

/-- What follows a bracket in a class: a named class, or a class within the class. -/
def bracketed (flags : Flags) (n : Nat) (pending : Option (SetOperator × Nested)) (u : Union) :
    Reader Nested := do
  let named ← named?
  match named with
  | some (negated, set) => continued flags n pending u negated ⟨set, 0⟩
  | none => do
    let (negated, start) ← classStart flags
    let part ← classRest? flags n none start
    continued flags n pending u negated ⟨part.set, part.depth + 1⟩

/-- A class does not end with the text. -/
theorem classRest?_nil (pending : Option (SetOperator × Nested)) (u : Union) :
    classRest? flags n pending u [] = none := by
  cases n with
  | zero => rfl
  | succ n => cases h : flags.spaced <;> simp [classRest?, Flags.skip, Flags.skipBlanks, h]

/-- The rest of a class, by what comes next. -/
theorem classRest?_succ (pending : Option (SetOperator × Nested)) (u : Union) :
    classRest? flags (n + 1) pending u = (do
      skipping flags
      let operator (op : SetOperator) := classRest? flags n (some (op, combined flags pending u)) {}
      on ']' (return combined flags pending u) <|
        on '[' (bracketed flags n pending u) <|
        onWord ['&', '&'] (operator .intersection) <|
        onWord ['-', '-'] (operator .difference) <|
        onWord ['~', '~'] (operator .symmetricDifference) (do
          let first ← classPiece? flags
          let set ← rangeFrom flags first
          classRest? flags n pending (u.insert ⟨set, 0⟩)) : Reader Nested) := by
  funext t
  -- a range may read nothing behind its first piece, since the class goes on
  have hrange : (classRange? flags >>= fun set =>
      classRest? flags n pending (u.insert ⟨set, 0⟩) : Reader Nested) =
      (classPiece? flags >>= fun first => rangeFrom flags first >>= fun set =>
        classRest? flags n pending (u.insert ⟨set, 0⟩)) :=
    classRange?_bind fun set => classRest?_nil pending _
  rw [classRest?, bind_apply, skipping_apply, Option.bind_some]
  generalize flags.skip t = t
  -- one case for each operator, the last one for a range
  split
  next => rfl
  next => rw [on_cons_self]; rfl
  next rest =>
    rw [on_of_ne (by simp), on_cons_self, bracketed, bind_apply, named?]
    cases asciiClass? rest with
    | none =>
      simp only [Option.bind_some, bind_apply, classStart]
      cases classRest? flags n none (classHead flags rest).2.1 (classHead flags rest).2.2 with
      | none => rfl
      | some x => simp [continued, Option.bind_assoc]
    | some named =>
      simp [continued, Option.bind_assoc]
  next rest =>
    rw [on_of_ne (by simp), on_of_ne (by simp)]
    exact (onWord_append ['&', '&'] rest _ _).symm
  next rest =>
    rw [on_of_ne (by simp), on_of_ne (by simp), onWord_of_ne (by simp)]
    exact (onWord_append ['-', '-'] rest _ _).symm
  next rest =>
    rw [on_of_ne (by simp), on_of_ne (by simp), onWord_of_ne (by simp), onWord_of_ne (by simp)]
    exact (onWord_append ['~', '~'] rest _ _).symm
  next hclose hopen hand hminus htilde =>
    rw [on_of_ne hclose, on_of_ne hopen, onWord_of_ne hand, onWord_of_ne hminus,
      onWord_of_ne htilde, ← hrange, bind_apply]
    cases classRange? flags t <;> rfl

/-- The rest of a class is local, whatever the fuel on either side. -/
theorem local_classRest? (n m : Nat) (pending : Option (SetOperator × Nested)) (u : Union) :
    Local m (classRest? flags n pending u) (classRest? flags m pending u) := by
  refine local_of_fuel (R := fun n (i : Option (SetOperator × Nested) × Union) =>
    classRest? flags n i.1 i.2) (fun _ _ => rfl) (fun n m ih (pending, u) => ?_) n m (pending, u)
  replace ih := ih n (Nat.le_refl n) m
  simp only [classRest?_succ]
  have hcontinued (negated : Bool) (part : Nested) : Local m (continued flags n pending u negated part)
      (continued flags m pending u negated part) :=
    (local_ofOption _).bind fun set => ih (pending, _)
  refine (local_skipping flags).bind fun _ => local_on_succ (local_pure _) <| local_on_succ ?_ <|
    local_onWord_succ (by simp) (by simp) (ih (_, _)) <|
    local_onWord_succ (by simp) (by simp) (ih (_, _)) <|
    local_onWord_succ (by simp) (by simp) (ih (_, _)) ?_
  · -- what follows a bracket
    refine local_named?.bind fun named => ?_
    cases named with
    | some named => exact hcontinued _ _
    | none => exact local_classStart.bind fun start => (ih (none, start.2)).bind fun part =>
        hcontinued _ _
  · -- a range; a test of the spot is none, so no braces can mislead
    refine local_classPiece?.bindWhen 1 length_of_classPiece? (fun first =>
      (local_rangeFrom first).bind fun set => ih (pending, _)) ?_
    rintro first t rest s b h _ _ test rfl
    rw [bind_apply, rangeFrom_spot] at h
    exact absurd h (by simp)

end

/-- A class behind its opening bracket is read the same whatever end of a group follows. -/
theorem local_charClass? : Local bound (charClass? flags) (charClass? flags) := by
  have heq : charClass? flags = (do
      let (negated, start) ← classStart flags
      let part ← fun t => classRest? flags (t.length + 1) none start t
      let set ← ofOption (flags.signed? negated (flags.foldedSet part.set))
      return ⟨set, part.depth + 1⟩ : Reader Nested) := by
    funext t
    simp [charClass?, classStart, Option.bind_assoc]
  rw [heq]
  exact local_classStart.bind fun (negated, start) =>
    (local_fuel 1 fun n m => local_classRest? n m none start).bind fun part =>
      (local_ofOption _).bind fun set => local_pure _

end ServletRoutes.Pattern
