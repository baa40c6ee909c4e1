import ServletRoutes.Proofs.Pattern.Locality.CharClass

/-!
# `ServletRoutes.Proofs.Pattern.Locality.Group`: groups are local

What a group holds is read the same whether a closing parenthesis ends it or the
end of the text does, and whatever stands behind the parenthesis.
-/

set_option autoImplicit false

namespace ServletRoutes.Pattern

open Reader

variable {flags : Flags} {bound n : Nat} {names : List Text}

/-! ### The beginning of a group -/

/-- The flags at the beginning of a group, and the character behind them. -/
def flagGroup (i : Flags × List Char × Bool) : Reader (Flags × List Char × Char) := fun t =>
  match flagItems? i.1 i.2.1 i.2.2 t with
  | some (flags, seen, c :: rest) => some ((flags, seen, c), rest)
  | _ => none

/-- The flags at the beginning of a group, one character after the other. -/
theorem flagGroup_eq (seen : List Char) (afterHyphen : Bool) :
    flagGroup (flags, seen, afterHyphen) = (do
      let c ← next
      if c = ':' || c = ')' then
        if afterHyphen then ofOption none else return (flags, seen, c)
      else if seen.contains c then ofOption none
      else if c = '-' then flagGroup (flags, c :: seen, true)
      else do
        let flags ← ofOption (flags.set? c (!seen.contains '-'))
        flagGroup (flags, c :: seen, false) : Reader (Flags × List Char × Char)) := by
  funext t
  cases t with
  | nil => rfl
  | cons c t =>
    simp only [flagGroup, flagItems?, bind_apply, next_cons, Option.bind_some, if_apply]
    by_cases hend : (c = ':' || c = ')') = true
    · rw [if_pos hend, if_pos hend]
      cases afterHyphen <;> rfl
    rw [if_neg hend, if_neg hend]
    by_cases hseen : seen.contains c = true
    · rw [if_pos hseen, if_pos hseen]
      rfl
    rw [if_neg hseen, if_neg hseen]
    by_cases hhyphen : c = '-'
    · rw [if_pos hhyphen, if_pos hhyphen]
    rw [if_neg hhyphen, if_neg hhyphen]
    cases flags.set? c (!seen.contains '-') <;> rfl

/-- What is left behind flags is the end of what there was. -/
theorem flagGroup_suffix (i : Flags × List Char × Bool) {t rest : Text}
    {a : Flags × List Char × Char} (h : flagGroup i t = some (a, rest)) : rest <:+ t := by
  induction t generalizing i with
  | nil => exact absurd h (by simp [flagGroup, flagItems?])
  | cons c t ih =>
    obtain ⟨flags, seen, afterHyphen⟩ := i
    rw [flagGroup_eq, bind_apply, next_cons, Option.bind_some] at h
    refine List.IsSuffix.trans ?_ (List.suffix_cons c t)
    split at h
    · split at h
      · exact absurd h (by simp)
      · exact (Prod.mk.inj (Option.some.inj h)).2 ▸ List.suffix_rfl
    split at h
    · exact absurd h (by simp)
    split at h
    · exact ih _ h
    · obtain ⟨flags', mid, hset, hread⟩ := bind_eq_some_iff.1 h
      obtain ⟨-, rfl⟩ := ofOption_eq_some_iff.1 hset
      exact ih _ hread

/-- Flags are local. -/
theorem local_flagGroup (i : Flags × List Char × Bool) :
    Local bound (flagGroup i) (flagGroup i) := by
  refine local_of_rec flagGroup_suffix (fun bound ih (flags, seen, afterHyphen) => ?_) bound i
  rw [flagGroup_eq]
  exact local_next_bind fun c => .ite (.ite local_none (local_pure _)) <| .ite local_none <|
    .ite (ih _) ((local_ofOption _).bind fun flags => ih _)

/-- The name of a group up to its closing bracket. -/
theorem groupName?_eq (first : Bool) : groupName? first = (do
    let c ← next
    if c = '>' then return []
    else if isNameChar first c then do
      let name ← groupName? false
      return c :: name
    else ofOption none : Reader Text) := by
  funext t
  cases t with
  | nil => rfl
  | cons c t =>
    simp only [groupName?, bind_apply, next_cons, Option.bind_some, if_apply]
    cases groupName? false t <;> rfl

/-- What is left behind the name of a group is the end of what there was. -/
theorem groupName?_suffix (first : Bool) {t rest name : Text}
    (h : groupName? first t = some (name, rest)) : rest <:+ t := by
  induction t generalizing first name with
  | nil => exact absurd h (by simp [groupName?])
  | cons c t ih =>
    rw [groupName?_eq, bind_apply, next_cons, Option.bind_some] at h
    refine List.IsSuffix.trans ?_ (List.suffix_cons c t)
    split at h
    · exact (Prod.mk.inj (Option.some.inj h)).2 ▸ List.suffix_rfl
    split at h
    · obtain ⟨name', mid, hname, hpure⟩ := bind_eq_some_iff.1 h
      obtain ⟨-, rfl⟩ := Prod.mk.inj (Option.some.inj hpure)
      exact ih _ hname
    · exact absurd h (by simp)

/-- The name of a group is local. -/
theorem local_groupName? (first : Bool) : Local bound (groupName? first) (groupName? first) := by
  refine local_of_rec groupName?_suffix (fun bound ih first => ?_) bound first
  rw [groupName?_eq]
  exact local_next_bind fun c => .ite (local_pure _) <|
    .ite ((ih false).bind fun name => local_pure _) local_none

/-- The flags at the beginning of a group; and for a group whether it is remembered, and the names of
groups seen so far. -/
abbrev GroupStart := Flags × Option (Bool × List Text)

/-- The beginning of a group apart from what is left. -/
def GroupHead.parts : GroupHead → GroupStart × Text
  | directive flags rest => ((flags, none), rest)
  | group remembered flags names rest => ((flags, some (remembered, names)), rest)

/-- The beginning of a group. -/
def groupStart (flags : Flags) (names : List Text) : Reader GroupStart :=
  fun t => (groupHead? flags names t).map GroupHead.parts

/-- The beginning of a named group. -/
def namedStart (flags : Flags) (names : List Text) : Reader GroupStart := do
  let name ← groupName? true
  if name = [] || names.contains name then ofOption none
  else return (flags, some (true, name :: names))

/-- The beginning of a group with flags, or flags alone. -/
def flagStart (flags : Flags) (names : List Text) : Reader GroupStart := do
  let (inner, seen, c) ← flagGroup (flags, [], false)
  if c = ':' then return (inner, some (false, names))
  else if c = ')' && seen ≠ [] then return (inner, none)
  else ofOption none

/-- The beginning of a named group is its name. -/
theorem namedGroup?_eq (t : Text) :
    (namedGroup? flags names t).map GroupHead.parts = namedStart flags names t := by
  simp only [namedGroup?, namedStart, bind_apply]
  cases groupName? true t with
  | none => rfl
  | some x =>
    simp only [Option.bind_some, if_apply]
    split <;> rfl

/-- The beginning of a group with flags is the flags and the character behind them. -/
theorem flagItems?_eq (t : Text) :
    Option.map GroupHead.parts
      (match flagItems? flags [] false t with
      | some (inner, _, ':' :: rest) => some (.group false inner names rest)
      | some (inner, seen, ')' :: rest) => if seen = [] then none else some (.directive inner rest)
      | _ => none) =
    flagStart flags names t := by
  simp only [flagStart, bind_apply, flagGroup]
  rcases flagItems? flags [] false t with _ | ⟨inner, seen, _ | ⟨c, rest⟩⟩
  · rfl
  · rfl
  by_cases hcolon : c = ':'
  · subst hcolon
    rfl
  by_cases hclose : c = ')'
  · subst hclose
    by_cases hseen : seen = [] <;> simp [hseen, GroupHead.parts]
  · simp [hcolon, hclose]

/-- The beginning of a group, by what stands behind its parenthesis. -/
theorem groupStart_eq : groupStart flags names =
    on '?'
      (on '=' (ofOption none) <| on '!' (ofOption none) <|
        on '<' (on '=' (ofOption none) <| on '!' (ofOption none) <| namedStart flags names) <|
        onWord ['P', '<'] (namedStart flags names) <|
        flagStart flags names)
      (pure (flags, some (true, names))) := by
  funext t
  rw [groupStart, groupHead?.eq_def]
  split
  -- tests of what stands around the group
  next => simp [on_cons]
  next => simp [on_cons]
  next => simp [on_cons]
  next => simp [on_cons]
  next t =>
    rw [on_cons_self, on_of_ne (by simp), on_of_ne (by simp), on_of_ne (by simp),
      namedGroup?_eq]
    exact (onWord_append ['P', '<'] t _ _).symm
  next t hequal hnot =>
    rw [on_cons_self, on_of_ne (by simp), on_of_ne (by simp), on_cons_self,
      on_of_ne fun u hu => hequal u (by rw [hu]), on_of_ne fun u hu => hnot u (by rw [hu]),
      namedGroup?_eq]
  next t hequal hnot _ _ hnamed hangle =>
    rw [on_cons_self, on_of_ne hequal, on_of_ne hnot, on_of_ne hangle, onWord_of_ne hnamed]
    exact flagItems?_eq t
  next hmark =>
    rw [on_of_ne hmark]
    rfl

/-- The beginning of a group is local. -/
theorem local_groupStart : Local bound (groupStart flags names) (groupStart flags names) := by
  have hnamed : Local bound (namedStart flags names) (namedStart flags names) :=
    (local_groupName? true).bind fun name => .ite local_none (local_pure _)
  have hflags (bound : Nat) : Local bound (flagStart flags names) (flagStart flags names) :=
    (local_flagGroup _).bind fun _ => .ite (local_pure _) <| .ite (local_pure _) local_none
  rw [groupStart_eq]
  refine local_on (local_on local_none <| local_on local_none <| local_on ?_ ?_) (local_pure _)
  · exact local_on local_none <| local_on local_none hnamed
  · exact (local_onWord_succ (by simp) (by simp) hnamed (hflags _)).mono (Nat.le_succ _)

/-! ### Counts -/

/-- The digits of a number are gathered as far as they reach. -/
theorem countDigits_eq (n : Nat) (t : Text) :
    countDigits flags n t = gather flags Char.isDigit List.cons [] n t := by
  induction n generalizing t with
  | zero => rfl
  | succ n ih =>
    cases t with
    | nil => rfl
    | cons c t => rw [countDigits, gather, ih]

/-- A number in a count is its digits, which may stand between blanks. -/
theorem count?_eq : count? flags = (do
    blanks
    let digits ← gathered flags Char.isDigit List.cons []
    let value := digits.foldl (fun n d => 10 * n + (d.toNat - 48)) 0
    if digits = [] || 0x100000000 ≤ value then ofOption none
    else do
      blanks
      skipping flags
      return value : Reader Nat) := by
  funext t
  simp only [count?, countDigits_eq, bind_apply, blanks_apply, gathered, Option.bind_some, if_apply]
  split <;> rfl

/-- A number in a count is local. -/
theorem local_count? : Local bound (count? flags) (count? flags) := by
  rw [count?_eq]
  exact local_blanks.bind fun _ => local_gathered.bind fun digits => .ite local_none <|
    local_blanks.bind fun _ => (local_skipping flags).bind fun _ => local_pure _

/-- A closing brace comes next. -/
def closesAhead (t : Text) : Bool := t.head? = some '\x7d'

/-- Whether a closing brace comes next does not depend on the end of the group that follows. -/
theorem closesAhead_append {q tail : Text} (htail : EndsGroup tail) :
    closesAhead (q ++ tail) = closesAhead q := by
  cases q with
  | nil => rcases htail.cases with rfl | ⟨r, rfl⟩ <;> rfl
  | cons c q => rfl

/-- The closing brace of a count, whose bounds must be in order. -/
def countEnd (flags : Flags) (least : Nat) (most : Option Nat) : Reader (Nat × Option Nat) :=
  on '\x7d'
    (if most.any (· < least) then ofOption none
    else do
      skipping flags
      return (least, most))
    (ofOption none)

/-- A count ends with a closing brace, and is refused if its bounds are the wrong way round. -/
theorem countEnd_eq (least : Nat) (most : Option Nat) (t : Text) :
    Option.map (fun x : Nat × Option Nat × Text => ((x.1, x.2.1), x.2.2))
      (match t with
      | '\x7d' :: rest => if most.any (· < least) then none else some (least, most, flags.skip rest)
      | _ => none) = countEnd flags least most t := by
  by_cases hbrace : ∃ u, t = '\x7d' :: u
  · obtain ⟨u, rfl⟩ := hbrace
    rw [countEnd, on_cons_self, if_apply]
    by_cases hmost : most.any (· < least) = true <;> simp [hmost]
  · have hne : ∀ u, t = '\x7d' :: u → False := fun u hu => hbrace ⟨u, hu⟩
    rw [countEnd, on_of_ne hne]
    split
    next u => exact absurd ⟨u, rfl⟩ hbrace
    next => rfl

/-- The upper bound of a count, which is the lower one if there is none of its own. -/
def countMost (flags : Flags) (least : Nat) : Reader (Option Nat) :=
  on ','
    (do
      skipping flags
      let closes ← fun t => some (closesAhead t, t)
      if closes then return none
      else do
        let most ← count? flags
        return some most)
    (return some least)

/-- A count behind its opening brace. -/
def counts (flags : Flags) : Reader (Nat × Option Nat) := ofTriple (counted? flags)

/-- A count is its least number, what follows a comma, and the closing brace. -/
theorem counts_eq : counts flags = (do
    skipping flags
    let least ← count? flags
    let most ← countMost flags least
    countEnd flags least most : Reader (Nat × Option Nat)) := by
  funext t
  simp only [counts, ofTriple, counted?, bind_apply, skipping_apply, Option.bind_some]
  cases count? flags (flags.skip t) with
  | none => rfl
  | some x =>
    obtain ⟨least, t⟩ := x
    simp only [countMost]
    -- behind the least number comes a comma or the end, and behind the comma maybe nothing
    by_cases hcomma : ∃ u, t = ',' :: u
    · obtain ⟨u, rfl⟩ := hcomma
      simp only [on_cons_self, Option.bind_eq_bind, Option.bind_some, bind_apply, skipping_apply,
        if_apply]
      by_cases hbrace : ∃ v, flags.skip u = '\x7d' :: v
      · obtain ⟨v, hv⟩ := hbrace
        rw [hv]
        exact countEnd_eq least none ('\x7d' :: v)
      · have hne : ∀ v, flags.skip u = '\x7d' :: v → False := fun v hv => hbrace ⟨v, hv⟩
        have hopen : closesAhead (flags.skip u) = false := by
          rw [closesAhead, decide_eq_false_iff_not, List.head?_eq_some_iff]
          exact hbrace
        rw [hopen, if_neg (by simp)]
        split
        next v heq => exact absurd heq (hne v)
        next =>
          cases count? flags (flags.skip u) with
          | none => rfl
          | some most => exact countEnd_eq least (some most.1) most.2
    · have hne : ∀ u, t = ',' :: u → False := fun u hu => hcomma ⟨u, hu⟩
      simp only [on_of_ne hne, Option.bind_eq_bind, Option.bind_some, pure_apply]
      exact countEnd_eq least (some least) t

/-- The greatest number of a count is local. -/
theorem local_countMost (least : Nat) :
    Local bound (countMost flags least) (countMost flags least) :=
  local_on ((local_skipping flags).bind fun _ => (local_ahead closesAhead_append).bind fun _ =>
    .ite (local_pure _) (local_count?.bind fun _ => local_pure _)) (local_pure _)

/-- A count is local. -/
theorem local_counts : Local bound (counts flags) (counts flags) := by
  rw [counts_eq]
  exact (local_skipping flags).bind fun _ => local_count?.bind fun least =>
    (local_countMost least).bind fun most =>
      local_on (.ite local_none ((local_skipping flags).bind fun _ => local_pure _)) local_none

/-- A count reads something of what follows the brace. -/
theorem counts_suffix {t rest : Text} {a : Nat × Option Nat} (h : counts flags t = some (a, rest)) :
    rest <:+ flags.skip t ∧ flags.skip t ≠ rest := by
  rw [counts_eq] at h
  obtain ⟨_, mid, hskip, h⟩ := bind_eq_some_iff.1 h
  obtain ⟨-, rfl⟩ := Prod.mk.inj (Option.some.inj hskip)
  obtain ⟨least, mid, hleast, h⟩ := bind_eq_some_iff.1 h
  obtain ⟨most, mid', hmost, h⟩ := bind_eq_some_iff.1 h
  have hmid : mid' <:+ flags.skip t :=
    ((local_countMost least : Local 0 _ _).suffix hmost).trans
      ((local_count? : Local 0 _ _).suffix hleast)
  rw [countEnd] at h
  cases mid' with
  | nil => exact absurd h (by simp)
  | cons c u =>
    rw [on_cons] at h
    split at h
    -- the closing brace has been read, so something has
    · have hu : rest <:+ u := (LocalWhen.ite local_none
        ((local_skipping flags).bind fun _ => local_pure _) : Local 0 _ _).suffix h
      refine ⟨(hu.trans (List.suffix_cons c u)).trans hmid, fun heq => ?_⟩
      have hle := hmid.length_le
      have hle' := hu.length_le
      rw [heq, List.length_cons] at hle
      omega
    · exact absurd h (by simp)

/-! ### Sequences and choices -/

/-- What is no operator is an escape or one character. -/
theorem primitive?_eq : primitive? flags = on '\\'
    (do
      let piece ← escape? flags
      ofOption (piece.expr? flags))
    (do
      let c ← next
      ofOption ((primitive? flags [c]).map (·.1))) := by
  funext t
  cases t with
  | nil => rfl
  | cons c t =>
    by_cases hc : c = '\\'
    · subst hc
      simp [primitive?, on_cons_self]
    · rw [on_of_ne (by simp [hc])]
      simp only [bind_apply, next_cons, Option.bind_some, ofOption, primitive?]
      split <;> simp_all [Function.comp_def]

/-- What is no operator is local where braces behind a word boundary are settled. -/
theorem local_primitive? :
    LocalWhen (fun _ => Unbraced flags) bound (primitive? flags) (primitive? flags) := by
  rw [primitive?_eq]
  refine local_on (local_escape?.bindSettled (fun piece => (local_ofOption _).when) ?_)
    (local_next.bind fun c => local_ofOption _).when
  rintro piece t rest s e h _ hrest test -
  obtain ⟨-, rfl⟩ := ofOption_eq_some_iff.1 h
  exact hrest

/-- What is no operator takes a character at least. -/
theorem length_of_primitive? {t rest : Text} {e : Expr} (h : primitive? flags t = some (e, rest)) :
    rest.length + 1 ≤ t.length := by
  cases t with
  | nil => exact absurd h (by simp [primitive?])
  | cons c t =>
    rw [primitive?_eq, on_cons] at h
    refine Nat.succ_le_succ (List.IsSuffix.length_le ?_)
    split at h
    · obtain ⟨piece, mid, hpiece, hexpr⟩ := bind_eq_some_iff.1 h
      obtain ⟨-, rfl⟩ := ofOption_eq_some_iff.1 hexpr
      exact (local_escape? : LocalWhen _ 0 _ _).suffix hpiece
    · rw [bind_apply, next_cons, Option.bind_some] at h
      exact (ofOption_eq_some_iff.1 h).2 ▸ List.suffix_rfl

/-- A closing parenthesis or the end of the text comes next. -/
def endsAhead (t : Text) : Bool := t.head?.all (· = ')')

/-- Whether a group ends here does not depend on which end of it follows. -/
theorem endsAhead_append {q tail : Text} (htail : EndsGroup tail) :
    endsAhead (q ++ tail) = endsAhead q := by
  cases q with
  | nil => rcases htail.cases with rfl | ⟨r, rfl⟩ <;> rfl
  | cons c q => rfl

/-- How far the reading of a group has come. -/
structure Progress where
  flags : Flags
  names : List Text
  parts : List Part
  branches : List Part

namespace Progress

variable (i : Progress)

/-- One more part. -/
def push (part : Part) : Progress := { i with parts := part :: i.parts }

/-- The next branch. -/
def nextBranch : Progress := { i with parts := [], branches := sequence i.parts :: i.branches }

/-- The rest of a group, with the names of groups seen. -/
def rest (n : Nat) : Reader (Part × List Text) :=
  ofTriple (readGroup? n i.flags i.names i.parts i.branches)

/-- Behind a repetition of the last part. -/
def repeated (n least : Nat) (most : Option Nat) : Reader (Part × List Text) := do
  let isMarked ← on '?' (return true) (return false)
  let parts ← ofOption (repeatLast? least most (isMarked != i.flags.swapped) i.parts)
  rest { i with parts } n

/-- Behind an opening parenthesis. -/
def opened (n : Nat) : Reader (Part × List Text) := do
  skipping i.flags
  let (flags, group) ← groupStart i.flags i.names
  match group with
  | none => rest { i with flags, parts := .flags :: i.parts } n
  | some (remembered, names) => do
    let (part, names) ← rest ⟨flags, names, [], []⟩ n
    on ')'
      (do
        let e ← ofOption part.expr
        let whole : Part := ⟨some (if remembered then .group e else e), part.depth + 1⟩
        rest { i.push whole with names } n)
      (ofOption none)

/-- The mark of a lazy repetition is a question mark that comes next. -/
theorem lazyMark_eq (t : Text) :
    (on '?' (pure true) (pure false) : Reader Bool) t = some (lazyMark t) := by
  by_cases hmark : ∃ u, t = '?' :: u
  · obtain ⟨u, rfl⟩ := hmark
    rw [on_cons_self]
    rfl
  · have hne : ∀ u, t = '?' :: u → False := fun u hu => hmark ⟨u, hu⟩
    rw [on_of_ne hne, lazyMark.eq_def]
    split
    next u => exact absurd ⟨u, rfl⟩ hmark
    next => rfl

/-- Reading goes on behind a repetition of the last part. -/
theorem repeated_eq (n least : Nat) (most : Option Nat) (t : Text) :
    Option.map (fun x : Part × List Text × Text => ((x.1, x.2.1), x.2.2))
      (match repeatLast? least most ((lazyMark t).1 != i.flags.swapped) i.parts with
      | some parts => readGroup? n i.flags i.names parts i.branches (lazyMark t).2
      | none => none) = i.repeated n least most t := by
  rw [repeated, bind_apply, lazyMark_eq, Option.bind_some, bind_apply, ofOption_apply]
  cases repeatLast? least most ((lazyMark t).1 != i.flags.swapped) i.parts <;> rfl

/-- Reading goes on behind a group, or behind flags. -/
theorem opened_eq (n : Nat) (t : Text) :
    Option.map (fun x : Part × List Text × Text => ((x.1, x.2.1), x.2.2))
      (match groupHead? i.flags i.names (i.flags.skip t) with
      | none => none
      | some (.directive flags rest) => readGroup? n flags i.names (.flags :: i.parts) i.branches rest
      | some (.group remembered inner names rest) =>
        match readGroup? n inner names [] [] rest with
        | some (⟨some e, depth⟩, names, ')' :: rest) =>
          let part : Part := ⟨some (if remembered then .group e else e), depth + 1⟩
          readGroup? n i.flags names (part :: i.parts) i.branches rest
        | _ => none) = i.opened n t := by
  simp only [opened, bind_apply, skipping_apply, Option.bind_some, groupStart]
  rcases groupHead? i.flags i.names (i.flags.skip t) with _ | ⟨flags, rest⟩ | ⟨remembered, flags, names, u⟩
  · rfl
  · rfl
  simp only [Option.map_some, GroupHead.parts, Option.bind_some, bind_apply, rest, ofTriple]
  rcases readGroup? n flags names [] [] u with _ | ⟨⟨expr, depth⟩, names, u⟩
  · rfl
  simp only [Option.map_some, Option.bind_some]
  by_cases hclose : ∃ v, u = ')' :: v
  · obtain ⟨v, rfl⟩ := hclose
    rw [on_cons_self]
    cases expr <;> rfl
  · have hne : ∀ v, u = ')' :: v → False := fun v hv => hclose ⟨v, hv⟩
    rw [on_of_ne hne]
    split
    next v heq =>
      simp only [Option.some.injEq, Prod.mk.injEq] at heq
      exact absurd heq.2.2 (hne v)
    next => rfl

/-- Reading goes on behind a class. -/
theorem classed_eq (n : Nat) (t : Text) :
    Option.map (fun x : Part × List Text × Text => ((x.1, x.2.1), x.2.2))
      (match charClass? i.flags t with
      | some (part, rest) =>
        readGroup? n i.flags i.names (⟨some (i.flags.ofSet part.set), part.depth⟩ :: i.parts)
          i.branches rest
      | none => none) = (do
        let part ← charClass? i.flags
        rest (i.push ⟨some (i.flags.ofSet part.set), part.depth⟩) n : Reader _) t := by
  rw [bind_apply]
  cases charClass? i.flags t <;> rfl

/-- The rest of a group, by what comes next. -/
theorem rest_succ (n : Nat) : i.rest (n + 1) = (do
    skipping i.flags
    let ends ← fun t => some (endsAhead t, t)
    if ends then return (choice i.parts i.branches, i.names)
    else
      on '|' (i.nextBranch.rest n) <|
        on '(' (i.opened n) <|
        on '[' (do
          let part ← charClass? i.flags
          rest (i.push ⟨some (i.flags.ofSet part.set), part.depth⟩) n) <|
        on '?' (i.repeated n 0 (some 1)) <|
        on '*' (i.repeated n 0 none) <|
        on '+' (i.repeated n 1 none) <|
        on '\x7b' (do
          let (least, most) ← counts i.flags
          i.repeated n least most) (do
          let e ← primitive? i.flags
          rest (i.push (.leaf e)) n) : Reader (Part × List Text)) := by
  funext t
  rw [rest, ofTriple, readGroup?, bind_apply, skipping_apply, Option.bind_some]
  generalize i.flags.skip t = t
  simp only [bind_apply, Option.bind_some, if_apply]
  -- where the next character is given, the tests for operators evaluate
  split
  next => rfl
  next t => rfl
  next t => rfl
  next t =>
    exact i.opened_eq n t
  next t =>
    exact i.classed_eq n t
  next t =>
    exact i.repeated_eq n 0 (some 1) t
  next t =>
    exact i.repeated_eq n 0 none t
  next t =>
    exact i.repeated_eq n 1 none t
  next t =>
    show _ = (counts i.flags >>= fun x => i.repeated n x.1 x.2) t
    simp only [bind_apply, counts, ofTriple]
    cases counted? i.flags t with
    | none => rfl
    | some x => exact i.repeated_eq n x.1 x.2.1 x.2.2
  next hnil hclose hbar hopen hbracket hquestion hstar hplus hbrace =>
    rw [on_of_ne hbar, on_of_ne hopen, on_of_ne hbracket, on_of_ne hquestion, on_of_ne hstar,
      on_of_ne hplus, on_of_ne hbrace]
    have hgoes : endsAhead t = false := by
      cases t with
      | nil => exact absurd rfl hnil
      | cons c t => exact decide_eq_false fun hc => hclose t (by rw [hc])
    rw [hgoes, if_neg (by simp), bind_apply]
    cases primitive? i.flags t <;> rfl

variable {i}

/-- A brace is not left out. -/
theorem skip_brace (flags : Flags) (t : Text) : flags.skip ('\x7b' :: t) = '\x7b' :: t := by
  have hblank : Unicode.isBlank '\x7b' = false := by decide +kernel
  cases h : flags.spaced <;> simp [Flags.skip, Flags.skipBlanks, h, hblank]

/-- A brace begins a count, of which something is read. -/
theorem rest_brace {n : Nat}
    (hsuffix : ∀ (i : Progress) {t u a}, i.rest n t = some (a, u) → u <:+ t)
    {t u : Text} {a : Part × List Text} (h : i.rest (n + 1) ('\x7b' :: t) = some (a, u)) :
    u <:+ i.flags.skip t ∧ i.flags.skip t ≠ u := by
  have hbrace : i.rest (n + 1) ('\x7b' :: t) =
      (counts i.flags >>= fun x => i.repeated n x.1 x.2) t := by
    rw [rest_succ, bind_apply, skipping_apply, Option.bind_some, skip_brace]
    rfl
  rw [hbrace] at h
  obtain ⟨count, mid, hcount, hrepeated⟩ := bind_eq_some_iff.1 h
  obtain ⟨isMarked, v, hmark, hparts⟩ := bind_eq_some_iff.1 hrepeated
  obtain ⟨parts, w, hpart, hrest⟩ := bind_eq_some_iff.1 hparts
  obtain ⟨-, rfl⟩ := ofOption_eq_some_iff.1 hpart
  have hmid : u <:+ mid :=
    (hsuffix _ hrest).trans ((local_on (local_pure _) (local_pure _) : Local 0 _ _).suffix hmark)
  obtain ⟨hle, hne⟩ := counts_suffix hcount
  refine ⟨hmid.trans hle, fun heq => hne ?_⟩
  rw [← heq] at hmid
  exact List.IsSuffix.eq_of_length_le hmid hle.length_le

/-- The rest of a group is local, whatever the fuel on either side: one case per operator. -/
theorem local_rest (n m : Nat) (i : Progress) : Local m (i.rest n) (i.rest m) := by
  refine local_of_fuel (R := fun n i => Progress.rest i n) (fun _ _ => rfl) (fun n m ih i => ?_) n m i
  have hrest (i : Progress) : Local m (i.rest n) (i.rest m) := ih n (Nat.le_refl n) m i
  have hrepeated (least : Nat) (most : Option Nat) :
      Local m (i.repeated n least most) (i.repeated m least most) :=
    (local_on (local_pure _) (local_pure _)).bind fun isMarked =>
      (local_ofOption _).bind fun parts => hrest _
  have hopened : Local m (i.opened n) (i.opened m) := by
    refine (local_skipping _).bind fun _ => local_groupStart.bind fun (flags, group) => ?_
    cases group with
    | none => exact hrest _
    | some group =>
      refine (hrest _).bind fun (part, names) => ?_
      exact local_on ((local_ofOption _).bind fun e => hrest _) local_none
  simp only [rest_succ]
  refine (local_skipping _).bind fun _ => (local_ahead endsAhead_append).bind fun ends =>
    .ite (local_pure _) <| local_on_succ (hrest _) <| local_on_succ hopened <|
    local_on_succ (local_charClass?.bind fun part => hrest _) <|
    local_on_succ (hrepeated _ _) <| local_on_succ (hrepeated _ _) <|
    local_on_succ (hrepeated _ _) <|
    local_on_succ (local_counts.bind fun (least, most) => hrepeated _ _) <|
    local_primitive?.bindWhen 1 length_of_primitive? (fun e => hrest _) ?_
  -- braces that were looked at begin a count, which begins before the seam
  rintro e t rest s a h hs - u rfl
  cases n with
  | zero => exact absurd h (by simp [Progress.rest, ofTriple, readGroup?])
  | succ n =>
    have hsuffix (i : Progress) {t u : Text} {a : Part × List Text} :
        i.rest n t = some (a, u) → u <:+ t := (ih n (Nat.le_succ n) 0 i).suffix
    obtain ⟨hrest, hne⟩ := rest_brace hsuffix h
    refine ⟨hs.trans hrest, fun heq => hne ?_⟩
    rw [← heq] at hs
    exact List.IsSuffix.eq_of_length_le hs hrest.length_le

end Progress

end ServletRoutes.Pattern
