import ServletRoutes.Proofs.Pattern.Locality

/-!
# `ServletRoutes.Proofs.Pattern.Locality.Escape`: escapes are local

What is written with a backslash is read the same in front of a closing
parenthesis and at the end of the text. There is one exception: whether braces
after `\b` name a kind of word boundary is told by what stands in them, and
where they do not, nothing of them is read. So `escape?` is local where the
braces are settled: what follows the opening one begins before the parenthesis.
-/

set_option autoImplicit false

namespace ServletRoutes.Pattern

open Reader

variable {flags : Flags} {bound n m : Nat}

/-! ### Code points -/

/-- A given number of hexadecimal digits, one digit after the other. -/
theorem hexDigits?_succ (value : Nat) : hexDigits? flags (n + 1) value = (do
    let c ← next
    let d ← ofOption (hexDigit? c)
    skipping flags
    hexDigits? flags n (16 * value + d) : Reader Nat) := by
  funext t
  cases t with
  | nil => rfl
  | cons c t =>
    simp [hexDigits?, Option.bind_assoc]

/-- Hexadecimal digits are local. -/
theorem local_hexDigits? (value : Nat) :
    Local bound (hexDigits? flags n value) (hexDigits? flags n value) := by
  induction n generalizing value with
  | zero => exact local_pure value
  | succ n ih =>
    rw [hexDigits?_succ]
    exact local_next.bind fun c => (local_ofOption _).bind fun d =>
      (local_skipping flags).bind fun _ => ih _

/-- A number in braces, one digit after the other. -/
theorem bracedHex?_succ (value : Option Nat) : bracedHex? flags (n + 1) value = (do
    let c ← next
    if c = '}' then do
      let v ← ofOption value
      skipping flags
      return v
    else do
      let d ← ofOption (hexDigit? c)
      skipping flags
      bracedHex? flags n (some (16 * value.getD 0 + d)) : Reader Nat) := by
  funext t
  cases t with
  | nil => rfl
  | cons c t =>
    simp only [bracedHex?, Option.map_eq_bind, Function.comp_def, bind_pure_comp, bind_apply, next_cons,
      if_apply, ofOption_apply, map_apply, skipping_apply, Option.bind_some, Option.bind_assoc]

/-- A number in braces is local, whatever the fuel on either side. -/
theorem local_bracedHex? (n m : Nat) (value : Option Nat) :
    Local m (bracedHex? flags n value) (bracedHex? flags m value) := by
  refine local_of_fuel (R := bracedHex? flags) (fun _ _ => rfl) (fun n m ih value => ?_) n m value
  rw [bracedHex?_succ, bracedHex?_succ]
  refine local_next_bind fun c => .ite ?_ ?_
  · exact (local_ofOption value).bind fun v => (local_skipping flags).bind fun _ => local_pure v
  · exact (local_ofOption _).bind fun d => (local_skipping flags).bind fun _ =>
      ih n (Nat.le_refl n) m _

/-- A code point is written in braces, or with a number of digits that the letter in front of it
tells. -/
theorem hexEscape?_eq (digits : Nat) : hexEscape? flags digits = (do
    skipping flags
    on '\x7b'
      (do
        skipping flags
        let n ← fun t => bracedHex? flags (t.length + 1) none t
        let c ← ofOption (scalar? n)
        return .literal c)
      (do
        let n ← hexDigits? flags digits 0
        let c ← ofOption (scalar? n)
        return if digits = 2 then .byte c else .literal c) : Reader Piece) := by
  funext t
  rw [hexEscape?, bind_apply, skipping_apply, Option.bind_some]
  split
  next u heq => simp [heq, on_cons_self, Option.bind_assoc]
  next heq => simp [on_of_ne heq, Option.bind_assoc]

/-- A code point is local. -/
theorem local_hexEscape? (digits : Nat) :
    Local bound (hexEscape? flags digits) (hexEscape? flags digits) := by
  rw [hexEscape?_eq]
  refine (local_skipping flags).bind fun _ => local_on ?_ ?_
  · exact (local_skipping flags).bind fun _ => (local_fuel 1 fun n m => local_bracedHex? n m none).bind
      fun n => (local_ofOption _).bind fun c => local_pure _
  · exact (local_hexDigits? 0).bind fun n => (local_ofOption _).bind fun c => local_pure _

/-! ### Classes -/

/-- The name of a class in braces, one character after the other. -/
theorem bracedName?_succ : bracedName? flags (n + 1) = (do
    let c ← next
    if c = '}' then return [] else do
      skipping flags
      let name ← bracedName? flags n
      return c :: name : Reader Text) := by
  funext t
  cases t with
  | nil => rfl
  | cons c t =>
    simp only [bracedName?, Option.map_eq_bind, Function.comp_def, bind_pure_comp, bind_apply, next_cons,
      if_apply, pure_apply, skipping_apply, map_apply, Option.bind_some]

/-- The name of a class in braces is local, whatever the fuel on either side. -/
theorem local_bracedName? (n m : Nat) : Local m (bracedName? flags n) (bracedName? flags m) := by
  refine local_of_fuel (R := fun n (_ : Unit) => bracedName? flags n) (fun _ _ => rfl)
    (fun n m ih _ => ?_) n m ()
  simp only [bracedName?_succ]
  refine local_next_bind fun c => .ite (local_pure _) ?_
  exact (local_skipping flags).bind fun _ => (ih n (Nat.le_refl n) m ()).bind fun name =>
    local_pure _

/-- A class of Unicode is named in braces or by one character. -/
theorem propertyEscape?_eq (negated : Bool) : propertyEscape? flags negated = (do
    skipping flags
    let name ← on '\x7b'
      (do
        skipping flags
        fun t => bracedName? flags (t.length + 1) t)
      (do
        let c ← next
        if c = '\\' then ofOption none else do
          skipping flags
          return [c])
    let (unequal, named) ← ofOption (classNamed? name)
    if flags.unicode then do
      let set ← ofOption (flags.signed? (negated != unequal) (flags.foldedSet (.ofClass named)))
      return .charSet set
    else ofOption none : Reader Piece) := by
  funext t
  rw [propertyEscape?, bind_apply, skipping_apply, Option.bind_some]
  split
  next u heq => simp [heq, on_cons_self, Option.bind_assoc]
  next c u hne heq =>
    have hne' : ¬ c = '\x7b' := hne
    by_cases hc : c = '\\' <;> simp [heq, on_cons, hne', hc, Option.bind_assoc]
  next heq => simp [heq]

/-- A class of Unicode is local. -/
theorem local_propertyEscape? (negated : Bool) :
    Local bound (propertyEscape? flags negated) (propertyEscape? flags negated) := by
  rw [propertyEscape?_eq]
  refine (local_skipping flags).bind fun _ => (local_on ?_ ?_).bind fun name =>
    (local_ofOption _).bind fun (unequal, named) => .ite ?_ local_none
  · exact (local_skipping flags).bind fun _ => local_fuel 1 local_bracedName?
  · exact local_next.bind fun c => .ite local_none ((local_skipping flags).bind fun _ => local_pure _)
  · exact (local_ofOption _).bind fun set => local_pure _

/-! ### Word boundaries -/

/-- The name of a word boundary is gathered as far as its characters reach. -/
theorem boundaryName_eq (n : Nat) (t : Text) :
    boundaryName flags n t = gather flags isBoundaryNameChar List.cons [] n t := by
  induction n generalizing t with
  | zero => rfl
  | succ n ih =>
    cases t with
    | nil => rfl
    | cons c t => rw [boundaryName, gather, ih]

/-- A name up to the first character that cannot belong to one. -/
def boundaryNameOf (flags : Flags) : Reader Text := gathered flags isBoundaryNameChar List.cons []

/-- The kind of word boundary with a name. -/
def boundaryKind? (name : Text) : Option WordSpot :=
  if name = "start".toList then some .start
  else if name = "end".toList then some .finish
  else if name = "start-half".toList then some .startHalf
  else if name = "end-half".toList then some .finishHalf
  else none

/-- A kind of word boundary behind the opening brace. -/
def namedBoundary (flags : Flags) : Reader Piece := do
  let name ← boundaryNameOf flags
  on '\x7d'
    (do
      let kind ← ofOption (boundaryKind? name)
      return .spot (flags.wordSpot kind))
    (ofOption none)

/-- A kind of word boundary in braces is local. -/
theorem local_namedBoundary : Local bound (namedBoundary flags) (namedBoundary flags) :=
  local_gathered.bind fun _ =>
    local_on ((local_ofOption _).bind fun _ => local_pure _) local_none

/-- In front of a brace the next character decides whether a kind of word boundary is named. -/
theorem boundaryEscape?_brace {u v : Text} {c : Char} (h : flags.skip u = c :: v) :
    boundaryEscape? flags ('\x7b' :: u) =
      if isBoundaryNameChar c then namedBoundary flags (c :: v)
      else some (.spot (flags.wordSpot .boundary), '\x7b' :: u) := by
  have hfuel : boundaryName flags (v.length + 2) (c :: v) =
      gather flags isBoundaryNameChar List.cons [] (c :: v).length (c :: v) := by
    rw [boundaryName_eq, gather_fuel (by simp) (Nat.le_refl _)]
  simp only [boundaryEscape?, h, hfuel]
  split
  · simp only [namedBoundary, bind_apply, boundaryNameOf, gathered, Option.bind_some]
    split
    next name rest heq =>
      rw [heq, on_cons_self, boundaryKind?]
      (repeat' split) <;> rfl
    next hne =>
      rw [on_of_ne fun rest heq => hne _ rest (by rw [← heq])]
      rfl
  · rfl

/-- What stands behind an opening brace, which was looked at but is left, begins before the seam. -/
def Unbraced (flags : Flags) (rest s : Text) : Prop :=
  ∀ t, rest = '\x7b' :: t → s <:+ flags.skip t ∧ flags.skip t ≠ s

/-- A word boundary without braces is read alone. -/
theorem boundaryEscape?_of_ne {t : Text} (h : ∀ u, t = '\x7b' :: u → False) :
    boundaryEscape? flags t = some (.spot (flags.wordSpot .boundary), t) := by
  rw [boundaryEscape?.eq_def]
  split
  · exact absurd rfl (h _)
  · rfl

/-- A test of the spot may have been told by braces. -/
def Told (flags : Flags) (piece : Piece) (rest s : Text) : Prop :=
  ∀ test, piece = .spot test → Unbraced flags rest s

/-- What is left behind a word boundary is the end of what there was. -/
theorem boundaryEscape?_suffix {t rest : Text} {piece : Piece}
    (h : boundaryEscape? flags t = some (piece, rest)) : rest <:+ t := by
  by_cases hbrace : ∃ u, t = '\x7b' :: u
  · obtain ⟨u, rfl⟩ := hbrace
    cases hskip : flags.skip u with
    | nil => simp [boundaryEscape?, hskip] at h
    | cons c v =>
      rw [boundaryEscape?_brace hskip] at h
      split at h
      · have hv : c :: v <:+ u := hskip ▸ skip_suffix flags u
        have hrest : rest <:+ c :: v := (local_namedBoundary : Local 0 _ _).suffix h
        exact hrest.trans (hv.trans (List.suffix_cons _ u))
      · exact (Prod.mk.inj (Option.some.inj h)).2 ▸ List.suffix_rfl
  · rw [boundaryEscape?_of_ne fun u heq => hbrace ⟨u, heq⟩] at h
    exact (Prod.mk.inj (Option.some.inj h)).2 ▸ List.suffix_rfl

/-- What is not left out begins before the end of the group, whatever that is. -/
theorem exists_skip_eq {q r v tail : Text} {c : Char} (htail : EndsGroup tail)
    (hskip : flags.skip (q ++ ')' :: r) = c :: v) (hs : ')' :: r <:+ c :: v)
    (hne : c :: v ≠ ')' :: r) :
    ∃ front, v = front ++ ')' :: r ∧ flags.skip (q ++ tail) = c :: (front ++ tail) := by
  obtain ⟨front, rfl, -⟩ := exists_cons_of_suffix hs hne (hskip ▸ skip_suffix flags _)
  have hfront : flags.skip (q ++ tail) = (c :: front) ++ tail := skip_exchange htail hskip
  exact ⟨front, rfl, hfront⟩

/-- Braces are looked into in the same way whatever end of the group follows. -/
theorem boundaryEscape?_brace_exchange {q r q' tail : Text} {piece : Piece} (htail : EndsGroup tail)
    (hset : Told flags piece (q' ++ ')' :: r) (')' :: r))
    (h : boundaryEscape? flags ('\x7b' :: (q ++ ')' :: r)) = some (piece, q' ++ ')' :: r)) :
    boundaryEscape? flags ('\x7b' :: (q ++ tail)) = some (piece, q' ++ tail) := by
  cases hskip : flags.skip (q ++ ')' :: r) with
  | nil => simp [boundaryEscape?, hskip] at h
  | cons c v =>
    rw [boundaryEscape?_brace hskip] at h
    split at h
    next hname =>
      -- a name is read, which does not begin with the parenthesis
      have hs : ')' :: r <:+ c :: v :=
        (List.suffix_append q' _).trans ((local_namedBoundary : Local 0 _ _).suffix h)
      have hne : c :: v ≠ ')' :: r := by
        intro heq
        rw [(List.cons_eq_cons.1 heq).1] at hname
        exact absurd hname (by decide)
      obtain ⟨front, rfl, hfront⟩ := exists_skip_eq htail hskip hs hne
      rw [boundaryEscape?_brace hfront, if_pos hname]
      exact local_namedBoundary.exchange (q := c :: front) (Nat.lt_succ_self _) htail trivial h
    next hname =>
      -- the braces are left, and what is in them is settled
      obtain ⟨rfl, heq⟩ := Prod.mk.inj (Option.some.inj h)
      have hq : '\x7b' :: q = q' := List.append_cancel_right heq
      subst hq
      obtain ⟨hs, hne⟩ := hset _ rfl (q ++ ')' :: r) rfl
      rw [hskip] at hs hne
      obtain ⟨front, rfl, hfront⟩ := exists_skip_eq htail hskip hs hne
      rw [boundaryEscape?_brace hfront, if_neg hname]
      rfl

/-- A word boundary is local where braces behind it are settled. -/
theorem local_boundaryEscape? :
    LocalWhen (Told flags) bound (boundaryEscape? flags) (boundaryEscape? flags) where
  suffix := boundaryEscape?_suffix
  exchange := by
    intro q r q' tail piece _ htail hset h
    by_cases hbrace : ∃ u, q = '\x7b' :: u
    · obtain ⟨u, rfl⟩ := hbrace
      exact boundaryEscape?_brace_exchange htail hset h
    · -- the end of a group is no brace
      have hplain (tail : Text) (htail : EndsGroup tail) :
          ∀ u, q ++ tail = '\x7b' :: u → False :=
        fun _ heq => hbrace (htail.exists_eq_append (w := ['\x7b']) (by decide) heq)
      rw [boundaryEscape?_of_ne (hplain _ (endsGroup_cons r))] at h
      obtain ⟨rfl, heq⟩ := Prod.mk.inj (Option.some.inj h)
      rw [boundaryEscape?_of_ne (hplain tail htail), List.append_cancel_right heq]

/-! ### Escapes -/

/-- Most characters behind a backslash are read alone. -/
theorem escape?_cons {c : Char} (h : c ∉ ['x', 'u', 'U', 'p', 'P', 'b']) (t : Text) :
    escape? flags (c :: t) = ofOption ((escape? flags [c]).map (·.1)) t := by
  simp only [List.mem_cons, List.not_mem_nil, or_false, not_or] at h
  obtain ⟨hx, hu, hU, hp, hP, hb⟩ := h
  simp only [escape?, ofOption]
  split <;> simp_all [classEscape?, Function.comp_def]

/-- An escape is local where braces behind a word boundary are settled. -/
theorem local_escape? : LocalWhen (Told flags) bound (escape? flags) (escape? flags) := by
  have hnext : escape? flags = next >>= fun c t => escape? flags (c :: t) := by
    funext t
    cases t <;> rfl
  rw [hnext]
  refine local_next.bind fun c => ?_
  by_cases hmem : c ∈ ['x', 'u', 'U', 'p', 'P', 'b']
  · simp only [List.mem_cons, List.not_mem_nil, or_false] at hmem
    rcases hmem with rfl | rfl | rfl | rfl | rfl | rfl
    · exact (local_hexEscape? 2).when
    · exact (local_hexEscape? 4).when
    · exact (local_hexEscape? 8).when
    · exact (local_propertyEscape? false).when
    · exact (local_propertyEscape? true).when
    · exact local_boundaryEscape?
  · have hleaf : (fun t => escape? flags (c :: t)) = ofOption _ := funext (escape?_cons hmem)
    rw [hleaf]
    exact (local_ofOption _).when

end ServletRoutes.Pattern
