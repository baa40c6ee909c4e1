import Mathlib.Data.List.Forall2
import Mathlib.Logic.Basic
import ServletRoutes.Filter
import ServletRoutes.Proofs.Outcome
import ServletRoutes.Proofs.Pattern.Written

/-!
# `ServletRoutes.Proofs.Filter.Anchoring`: what an anchored pattern covers

The pattern of an entry is put between anchors as text, and only the outcome is
read. `read_anchored` says what this comes to. The group between the anchors
ends where the reading of the pattern alone would end: behind it if it is a
pattern by itself, which then has to match the whole name, and else at a closing
parenthesis in it that ends none of its own groups.

`parse_entries` says so of every entry of a filter: its rule follows the entry
unless the pattern of the entry is stray. Strays are accepted, as
`parse_entries_stray` shows.
-/

set_option autoImplicit false

namespace ServletRoutes.Filter

open Pattern Relation

variable {pattern : Text} {e : Expr}

/-! ### Between the anchors -/

/-- The meaning of a pattern between the anchors. -/
def between (e : Expr) : Expr := .seq (.spot .textStart) (e.andThen (.spot .textEnd))

/-- An anchored pattern stands in a group of its own. -/
theorem anchored_eq (pattern : Text) :
    anchored pattern = '^' :: '(' :: '?' :: ':' :: (pattern ++ [')', '$']) := by
  simp [anchored]

/-- The anchor at the start, and the group behind it. -/
theorem readGroup?_start (n : Nat) (t : Text) :
    readGroup? (n + 2) {} [] [] [] ('^' :: '(' :: '?' :: ':' :: t) =
      match readGroup? n {} [] [] [] t with
      | some (⟨some e, depth⟩, names, ')' :: rest) =>
        readGroup? n {} names [⟨some e, depth + 1⟩, .leaf (.spot .textStart)] [] rest
      | _ => none := rfl

/-- The anchor at the end, behind the group. -/
theorem readGroup?_end (n : Nat) (names : List Text) (e : Expr) (depth : Nat) :
    readGroup? (n + 2) {} names [⟨some e, depth⟩, .leaf (.spot .textStart)] [] ['$'] =
      some (⟨some (between e), depth + 1⟩, names, []) := by
  let parts : List Part := [.leaf (.spot .textEnd), ⟨some e, depth⟩, .leaf (.spot .textStart)]
  have hread : readGroup? (n + 2) {} names [⟨some e, depth⟩, .leaf (.spot .textStart)] [] ['$'] =
      some (choice parts [], names, []) := rfl
  have hsequence : Expr.seqOf [.spot .textStart, e, .spot .textEnd] = between e :=
    Expr.spot_andThen .textStart (Expr.andThen_ne_empty nofun)
  have hchoice : (choice parts []).expr = some (between e) := by
    show some (Expr.eitherOf [Expr.seqOf [.spot .textStart, e, .spot .textEnd]]) = _
    rw [hsequence, between, Expr.eitherOf_seq]
  have hdepth : (choice parts []).depth = depth + 1 := by
    simp [parts, choice, Pattern.sequence, levelOf, Part.leaf]
  rw [hread, ← hchoice, ← hdepth]

/-- A match of all the name. -/
theorem occursIn_between (e : Expr) (name : Text) :
    (between e).occursIn name = true ↔ e.Matches name 0 name.length := by
  have hstart (i : Nat) : Spot.holdsAt name i .textStart = true ↔ i = 0 ∨ name = [] := by
    simp [Spot.holdsAt, Spot.holds]
  have hend (i : Nat) : Spot.holdsAt name i .textEnd = true ↔ name.length ≤ i := by
    simp [Spot.holdsAt, Spot.holds]
  rw [Expr.occursIn_iff, between]
  simp only [Expr.Matches, Expr.matches_andThen, Comp]
  constructor
  · rintro ⟨i, _, hj, _, ⟨hfirst, rfl⟩, j, hmatch, hlast, rfl⟩
    have hij : i ≤ j := hmatch.le
    obtain rfl : j = name.length := Nat.le_antisymm hj ((hend _).1 hlast)
    rcases (hstart i).1 hfirst with rfl | rfl
    · exact hmatch
    · -- the two ends of the empty name are one spot
      obtain rfl : i = 0 := Nat.le_zero.1 hij
      exact hmatch
  · intro h
    exact ⟨0, name.length, Nat.le_refl _, 0, ⟨(hstart 0).2 (.inl rfl), rfl⟩, name.length, h,
      (hend _).2 (Nat.le_refl _), rfl⟩

/-- An anchored pattern that can be read is a pattern by itself, or one of its parentheses closes the
group between the anchors. -/
theorem read_anchored {whole : Expr} (h : read (anchored pattern) = .ok whole) :
    (∃ e, Written pattern e ∧ whole = between e) ∨ Stray pattern := by
  obtain ⟨depth, names, hdepth, hwhole⟩ := written_of_read h
  have hfuel : (anchored pattern).length + 1 = pattern.length + 5 + 2 := by simp [anchored_eq]
  rw [hfuel, anchored_eq, readGroup?_start] at hwhole
  split at hwhole
  case h_2 => cases hwhole
  case h_1 e inner seen rest hgroup =>
  have hwithin := Progress.rest_within _ _ _ _ _ (Progress.rest_eq_some_iff.2 hwhole)
  have hinner : inner + 1 ≤ depth := hwithin.1 _ List.mem_cons_self
  have hlimit : inner ≤ depthLimit := by omega
  -- the group ends at the parenthesis behind the pattern, or in the pattern
  obtain ⟨front, hfront⟩ : ')' :: rest <:+ pattern ++ [')', '$'] :=
    (Progress.local_rest _ 0 _).suffix (Progress.rest_eq_some_iff.2 hgroup)
  obtain ⟨back, rfl, hend⟩ : ∃ back, pattern = front ++ back ∧ ')' :: rest = back ++ [')', '$'] := by
    rcases List.append_eq_append_iff.1 hfront with hback | ⟨more, rfl, hmore⟩
    · exact hback
    · rcases more with _ | ⟨c, _ | ⟨d, more⟩⟩ <;> simp_all
  cases back with
  | nil =>
    obtain ⟨-, rfl⟩ := List.cons_eq_cons.1 hend
    rw [List.append_nil] at hgroup ⊢
    rw [readGroup?_end, Option.some.injEq, Prod.mk.injEq, Pattern.Part.mk.injEq,
      Option.some.injEq] at hwhole
    exact .inl ⟨e, written_of_group hlimit hgroup, hwhole.1.1.symm⟩
  | cons c back =>
    obtain ⟨rfl, rfl⟩ := List.cons_eq_cons.1 hend
    rw [List.append_assoc, List.cons_append] at hgroup
    exact .inr (stray_of_group hlimit hgroup)

/-! ### Entries -/

/-- The character of a sign. -/
def Sign.mark : Sign → Char
  | includes => '+'
  | excludes => '-'

/-- The entries of an expression without the blanks around them, but for the empty ones. -/
def entries (expression : Text) : List Text :=
  ((Text.splitOn ',' expression).map trim).filter (· ≠ [])

/-- The rule has the sign of the entry, whose pattern is one by itself, and covers just the names that
the pattern matches as a whole. -/
def Rule.Follows (rule : Rule) (entry : Text) : Prop :=
  ∃ pattern e, entry = rule.sign.mark :: pattern ∧ Written pattern e ∧
    ∀ name, rule.covers name = true ↔ e.Matches name 0 name.length

/-- The rule has the sign of the entry, whose pattern is stray. -/
def Rule.Strays (rule : Rule) (entry : Text) : Prop :=
  ∃ pattern, entry = rule.sign.mark :: pattern ∧ Stray pattern

/-- The rule of an entry covers what its anchored pattern occurs in. -/
theorem rule?_eq_ok {sign : Char} {rule : Rule} (h : rule? sign pattern = .ok rule) :
    sign = rule.sign.mark ∧ ∃ whole, read (anchored pattern) = .ok whole ∧
      rule.covers = whole.occursIn := by
  rw [rule?] at h
  split at h
  · cases h
  next whole hread =>
    split at h <;> cases h <;> exact ⟨rfl, whole, hread, rfl⟩

/-- A rule is about the names that the pattern of its entry matches as a whole exactly when that pattern
is not stray. -/
theorem follows_xor_strays {sign : Char} {rule : Rule} (h : rule? sign pattern = .ok rule) :
    Xor (rule.Follows (sign :: pattern)) (rule.Strays (sign :: pattern)) := by
  obtain ⟨rfl, whole, hread, hcovers⟩ := rule?_eq_ok h
  rcases read_anchored hread with ⟨e, hwritten, rfl⟩ | hstray
  · refine .inl ⟨⟨pattern, e, rfl, hwritten, fun name => ?_⟩, ?_⟩
    · rw [hcovers]
      exact occursIn_between e name
    · rintro ⟨_, hentry, hstray⟩
      cases hentry
      exact hwritten.not_stray hstray
  · refine .inr ⟨⟨pattern, rfl, hstray⟩, ?_⟩
    rintro ⟨_, e, hentry, hwritten, -⟩
    cases hentry
    exact hwritten.not_stray hstray

/-- Every entry that is not empty has its rule. -/
theorem rules?_entries {texts : List Text} {rules : List Rule} (h : rules? texts = .ok rules) :
    List.Forall₂ (fun entry rule => Xor (rule.Follows entry) (rule.Strays entry))
      ((texts.map trim).filter (· ≠ [])) rules := by
  induction texts generalizing rules with
  | nil =>
    cases h
    exact .nil
  | cons text texts ih =>
    rw [rules?] at h
    rw [List.map_cons]
    split at h
    next hblank =>
      rw [hblank]
      exact ih h
    next sign pattern hentry =>
      rw [hentry]
      split at h
      · cases h
      next rule hrule =>
        obtain ⟨rest, hrest, rfl⟩ := map_eq_ok_iff.1 h
        exact .cons (follows_xor_strays hrule) (ih hrest)

/-- Each entry of an expression has its rule, which is about the names that the pattern of the entry
matches as a whole unless that pattern is stray. -/
theorem parse_entries {expression : Text} {filter : Filter} (h : parse expression = .ok filter) :
    List.Forall₂ (fun entry rule => Xor (rule.Follows entry) (rule.Strays entry))
      (entries expression) filter.rules := by
  obtain ⟨rules, hrules, rfl⟩ := map_eq_ok_iff.1 h
  exact rules?_entries hrules

/-- Of two entries one is followed, and the pattern of the other one is stray. -/
theorem parse_entries_group :
    ∃ filter first second, parse "+(web)?app, -a)|(b".toList = .ok filter ∧
      filter.rules = [first, second] ∧
      entries "+(web)?app, -a)|(b".toList = ["+(web)?app".toList, "-a)|(b".toList] ∧
      first.Follows "+(web)?app".toList ∧ second.Strays "-a)|(b".toList := by
  have hsome : (parse "+(web)?app, -a)|(b".toList).toOption.isSome = true := by decide +kernel
  obtain ⟨filter, hfilter⟩ := Option.isSome_iff_exists.1 hsome
  have hparse := eq_ok_of_toOption hfilter
  have hentries : entries "+(web)?app, -a)|(b".toList = ["+(web)?app".toList, "-a)|(b".toList] := by
    decide +kernel
  have hrules := parse_entries hparse
  rw [hentries] at hrules
  obtain ⟨first, _, hfirst, hrest, hcons⟩ := List.forall₂_cons_left_iff.1 hrules
  obtain ⟨second, _, hsecond, hnil, rfl⟩ := List.forall₂_cons_left_iff.1 hrest
  obtain rfl := List.forall₂_nil_left_iff.1 hnil
  refine ⟨filter, first, second, hparse, hcons, hentries, hfirst.or.resolve_right ?_,
    hsecond.or.resolve_left ?_⟩
  · -- the pattern of the first entry is one by itself
    rintro ⟨pattern, hentry, hread, -⟩
    obtain ⟨-, rfl⟩ := List.cons_eq_cons.1 hentry
    exact absurd hread (by decide +kernel)
  · -- the pattern of the second one cannot be read
    rintro ⟨pattern, e, hentry, hwritten, -⟩
    obtain ⟨-, rfl⟩ := List.cons_eq_cons.1 hentry
    exact hwritten.ne_malformed rfl

/-- The pattern of the only entry closes the group between the anchors. The filter is there, the pattern
is none, and the rule covers a name that no part of it matches as a whole. -/
theorem parse_entries_stray :
    ∃ filter, parse "+a)|(b".toList = .ok filter ∧ filter.accepts "ax".toList = true ∧
      read "a)|(b".toList = .error .malformed ∧
      ¬ List.Forall₂ (fun entry rule => rule.Follows entry) (entries "+a)|(b".toList) filter.rules := by
  have haccepts : (parse "+a)|(b".toList).toOption.map (·.accepts "ax".toList) = some true := by
    decide +kernel
  obtain ⟨filter, hfilter, hname⟩ := Option.map_eq_some_iff.1 haccepts
  have hentries : entries "+a)|(b".toList = ["+a)|(b".toList] := by decide +kernel
  have hread : read "a)|(b".toList = .error .malformed := rfl
  refine ⟨filter, eq_ok_of_toOption hfilter, hname, hread, fun h => ?_⟩
  rw [hentries] at h
  obtain ⟨rule, _, ⟨pattern, e, hentry, hwritten, -⟩, -⟩ := List.forall₂_cons_left_iff.1 h
  obtain ⟨-, rfl⟩ := List.cons_eq_cons.1 hentry
  exact hwritten.ne_malformed hread

end ServletRoutes.Filter
