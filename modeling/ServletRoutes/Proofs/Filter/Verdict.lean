import Mathlib.Data.List.Basic
import ServletRoutes.Filter

/-!
# `ServletRoutes.Proofs.Filter.Verdict`: which rules of a chain decide

A chain passes through stages with a name: it waits for a rule that includes
the name, it accepts the name, or a rule has excluded the name for good.
`Stage.step` is what one rule does to the stage, and `accepts_eq_decide` says
that the verdict is the stage behind the last rule.

From there the verdict is told without the order in which rules are tried:

* `Stage.foldl_accepted_iff`: an accepted name stays accepted exactly when no
  rule excludes it.
* `Stage.foldl_waiting_iff`: a name that is waited for is accepted exactly
  when a rule includes it and no rule behind the first such rule excludes it.
* `idle_of_step`: a rule that leaves the stage as it finds it may be
  left out.

`accepts_decided_by` puts this together for a whole chain. The last rule that
covers a name does not decide, as it does in filters of other kinds.
-/

set_option autoImplicit false

namespace ServletRoutes.Filter

variable {name : Text} {rules front back : List Rule} {rule : Rule}

/-- The rule has the sign and covers the name. -/
def Rule.Hits (rule : Rule) (sign : Sign) (name : Text) : Prop :=
  rule.sign = sign ∧ rule.covers name = true

instance {sign : Sign} : Decidable (rule.Hits sign name) := inferInstanceAs (Decidable (_ ∧ _))

/-- How far a chain has come with a name. -/
inductive Stage
  /-- The name is not accepted before a rule includes it. -/
  | waiting
  /-- The name is accepted unless a rule excludes it. -/
  | accepted
  /-- A rule has excluded the name, which ends the chain. -/
  | excluded
deriving DecidableEq

namespace Stage

/-- The stage behind one more rule. -/
def step (name : Text) : Stage → Rule → Stage
  | waiting, rule => if rule.Hits .includes name then accepted else waiting
  | accepted, rule => if rule.Hits .excludes name then excluded else accepted
  | excluded, _ => excluded

/-- The stage before the first rule. -/
def start (rules : List Rule) : Stage :=
  if startsAccepting rules then accepted else waiting

/-! ### What one rule does -/

/-- A name that waits is accepted by a rule that includes it. -/
theorem step_waiting_includes (h : rule.Hits .includes name) : step name waiting rule = accepted :=
  if_pos h

/-- A name that waits goes on waiting at every other rule. -/
theorem step_waiting (h : ¬ rule.Hits .includes name) : step name waiting rule = waiting :=
  if_neg h

/-- An accepted name is excluded by a rule that excludes it. -/
theorem step_accepted_excludes (h : rule.Hits .excludes name) :
    step name accepted rule = excluded :=
  if_pos h

/-- An accepted name stays accepted at every other rule. -/
theorem step_accepted (h : ¬ rule.Hits .excludes name) : step name accepted rule = accepted :=
  if_neg h

/-- A rule that excludes is not tried before a name is accepted. -/
theorem step_waiting_of_excludes (h : rule.sign = .excludes) : step name waiting rule = waiting := by
  refine step_waiting fun hhits => ?_
  exact absurd (h.symm.trans hhits.1) (by decide)

/-- A rule that includes is not tried once a name is accepted. -/
theorem step_accepted_of_includes (h : rule.sign = .includes) :
    step name accepted rule = accepted := by
  refine step_accepted fun hhits => ?_
  exact absurd (h.symm.trans hhits.1) (by decide)

/-! ### What a chain does -/

/-- Nothing changes once a name is excluded. -/
theorem foldl_excluded (rules : List Rule) : rules.foldl (step name) excluded = excluded := by
  induction rules with
  | nil => rfl
  | cons rule rules ih => exact ih

/-- An accepted name is excluded by any rule that does so, and is accepted otherwise. -/
theorem foldl_accepted (name : Text) (rules : List Rule) :
    rules.foldl (step name) accepted =
      if ∃ rule ∈ rules, rule.Hits .excludes name then excluded else accepted := by
  induction rules with
  | nil => rfl
  | cons rule rules ih =>
    rw [List.foldl_cons]
    by_cases h : rule.Hits .excludes name
    · -- whatever the other rules say
      rw [step_accepted_excludes h, foldl_excluded, if_pos ⟨rule, List.mem_cons_self, h⟩]
    · simp only [step_accepted h, ih, List.exists_mem_cons_iff, h, false_or]

/-- An accepted name stays accepted exactly when no rule excludes it. -/
theorem foldl_accepted_iff :
    rules.foldl (step name) accepted = accepted ↔ ∀ rule ∈ rules, ¬ rule.Hits .excludes name := by
  rw [foldl_accepted]
  split
  next h =>
    obtain ⟨rule, hrule, hhits⟩ := h
    exact iff_of_false (by decide) fun hnone => hnone rule hrule hhits
  next h => exact iff_of_true rfl fun rule hrule hhits => h ⟨rule, hrule, hhits⟩

/-- Rules that do not include a name leave it waiting. -/
theorem foldl_waiting (h : ∀ rule ∈ rules, ¬ rule.Hits .includes name) :
    rules.foldl (step name) waiting = waiting := by
  induction rules with
  | nil => rfl
  | cons rule rules ih =>
    rw [List.forall_mem_cons] at h
    rw [List.foldl_cons, step_waiting h.1, ih h.2]

end Stage

/-- These are the rules behind the first one that includes the name. -/
def BehindFirst (name : Text) (rules behind : List Rule) : Prop :=
  ∃ front first, rules = front ++ first :: behind ∧ first.Hits .includes name ∧
    ∀ rule ∈ front, ¬ rule.Hits .includes name

/-- A chain either has a first rule that includes a name or none that does. -/
theorem exists_behindFirst (h : ∃ rule ∈ rules, rule.Hits .includes name) :
    ∃ behind, BehindFirst name rules behind := by
  induction rules with
  | nil => simp at h
  | cons rule rules ih =>
    by_cases hfirst : rule.Hits .includes name
    · exact ⟨rules, [], rule, rfl, hfirst, by simp⟩
    · rw [List.exists_mem_cons_iff, or_iff_right hfirst] at h
      obtain ⟨behind, front, first, rfl, hhits, hfront⟩ := ih h
      exact ⟨behind, rule :: front, first, rfl, hhits, List.forall_mem_cons.mpr ⟨hfirst, hfront⟩⟩

namespace Stage

/-- A name that is waited for is accepted at the first rule that includes it. -/
theorem foldl_of_behindFirst {behind : List Rule} (h : BehindFirst name rules behind) :
    rules.foldl (step name) waiting = behind.foldl (step name) accepted := by
  obtain ⟨front, first, rfl, hfirst, hfront⟩ := h
  rw [List.foldl_append, foldl_waiting hfront, List.foldl_cons, step_waiting_includes hfirst]

/-- A name that is waited for is accepted exactly when a rule includes it and no rule behind the first
such rule excludes it. -/
theorem foldl_waiting_iff :
    rules.foldl (step name) waiting = accepted ↔
      ∃ behind, BehindFirst name rules behind ∧ ∀ rule ∈ behind, ¬ rule.Hits .excludes name := by
  constructor
  · intro h
    have hincluded : ∃ rule ∈ rules, rule.Hits .includes name := by
      -- otherwise the chain would end waiting
      by_contra hnone
      rw [foldl_waiting fun rule hrule hhits => hnone ⟨rule, hrule, hhits⟩] at h
      exact absurd h (by decide)
    obtain ⟨behind, hbehind⟩ := exists_behindFirst hincluded
    rw [foldl_of_behindFirst hbehind, foldl_accepted_iff] at h
    exact ⟨behind, hbehind, h⟩
  · rintro ⟨behind, hbehind, hnone⟩
    rw [foldl_of_behindFirst hbehind, foldl_accepted_iff]
    exact hnone

/-- Once a rule has included a name it is not waited for any more, and further inclusions are not
tried. -/
theorem step_foldl_of_includes (hincluded : ∃ r ∈ front, r.Hits .includes name)
    (h : rule.sign = .includes) :
    step name (front.foldl (step name) waiting) rule = front.foldl (step name) waiting := by
  obtain ⟨behind, hbehind⟩ := exists_behindFirst hincluded
  rw [foldl_of_behindFirst hbehind, foldl_accepted]
  split
  · rfl
  · exact step_accepted_of_includes h

end Stage

open Stage (step start)

/-! ### The verdict -/

/-- The rest of a chain accepts a name exactly when it ends in the stage of acceptance. -/
theorem verdict_eq_decide (accepted : Bool) (rules : List Rule) :
    verdict name accepted rules =
      decide (rules.foldl (step name) (if accepted then .accepted else .waiting) = .accepted) := by
  induction rules generalizing accepted with
  | nil => cases accepted <;> rfl
  | cons rule rules ih =>
    obtain ⟨sign, covers⟩ := rule
    rw [List.foldl_cons]
    -- rules of one sign are passed over, and only an exclusion can end the chain early
    cases accepted with
    | false =>
      cases sign with
      | includes =>
        rw [verdict, ih]
        cases hcovers : covers name <;> simp [step, Rule.Hits, hcovers]
      | excludes =>
        rw [verdict, ih]
        simp [Stage.step_waiting_of_excludes]
    | true =>
      cases sign with
      | includes =>
        rw [verdict, ih]
        simp [Stage.step_accepted_of_includes]
      | excludes =>
        rw [verdict, ih]
        cases hcovers : covers name with
        | false => simp [step, Rule.Hits, hcovers]
        | true => simp [step, Rule.Hits, hcovers, Stage.foldl_excluded]

/-- A filter accepts a name exactly when its chain ends in the stage of acceptance. -/
theorem accepts_eq_decide :
    (⟨rules⟩ : Filter).accepts name =
      decide (rules.foldl (step name) (start rules) = .accepted) :=
  verdict_eq_decide (startsAccepting rules) rules

/-- A chain that does not begin with an inclusion accepts every name before the first rule. -/
theorem start_accepted (h : ∀ first ∈ rules.head?, first.sign = .excludes) :
    start rules = .accepted := by
  match rules with
  | [] => rfl
  | ⟨.excludes, _⟩ :: _ => rfl
  | ⟨.includes, _⟩ :: _ => simp at h

/-- A chain that begins with an inclusion waits for every name. -/
theorem start_waiting (h : ∃ first ∈ rules.head?, first.sign = .includes) :
    start rules = .waiting := by
  match rules with
  | [] => simp at h
  | ⟨.excludes, _⟩ :: _ => simp at h
  | ⟨.includes, _⟩ :: _ => rfl

/-- Leaving out the rule between these ones makes no difference for the name. -/
def Idle (name : Text) (front : List Rule) (rule : Rule) (back : List Rule) : Prop :=
  (⟨front ++ back⟩ : Filter).accepts name = (⟨front ++ rule :: back⟩ : Filter).accepts name

/-- A rule behind another one that leaves the stage as it finds it makes no difference. -/
theorem idle_of_step (hfront : front ≠ [])
    (h : step name (front.foldl (step name) (start front)) rule =
      front.foldl (step name) (start front)) :
    Idle name front rule back := by
  -- the first rule alone tells how a chain begins
  have hstart (others : List Rule) : start (front ++ others) = start front := by
    match front with
    | [] => exact absurd rfl hfront
    | ⟨.includes, _⟩ :: _ => rfl
    | ⟨.excludes, _⟩ :: _ => rfl
  rw [Idle, accepts_eq_decide, accepts_eq_decide, hstart, hstart, List.foldl_append,
    List.foldl_append, List.foldl_cons, h]

/-- What decides on a name, for every chain of rules.

A chain that is empty or begins with an exclusion accepts a name exactly when none of its rules
excludes the name. Inclusions make no difference, and neither do the rules behind one that excludes the
name.

A chain that begins with an inclusion accepts a name exactly when a rule includes it and no rule behind
the first such rule excludes it. Exclusions before the first rule that includes the name make no
difference, nor do inclusions behind it, nor the rules behind an exclusion that comes later and excludes
the name. -/
theorem accepts_decided_by (rules : List Rule) (name : Text) :
    ((∀ first ∈ rules.head?, first.sign = .excludes) →
      ((⟨rules⟩ : Filter).accepts name = true ↔ ∀ rule ∈ rules, ¬ rule.Hits .excludes name) ∧
      ∀ front rule back, rules = front ++ rule :: back →
        (rule.sign = .includes ∨ ∃ r ∈ front, r.Hits .excludes name) →
        Idle name front rule back) ∧
    ((∃ first ∈ rules.head?, first.sign = .includes) →
      ((⟨rules⟩ : Filter).accepts name = true ↔
        ∃ behind, BehindFirst name rules behind ∧ ∀ rule ∈ behind, ¬ rule.Hits .excludes name) ∧
      ∀ front rule back, rules = front ++ rule :: back →
        ((rule.sign = .excludes ∧ ∀ r ∈ front, ¬ r.Hits .includes name) ∨
          (rule.sign = .includes ∧ ∃ r ∈ front, r.Hits .includes name) ∨
          ∃ behind, BehindFirst name front behind ∧ ∃ r ∈ behind, r.Hits .excludes name) →
        Idle name front rule back) := by
  rw [accepts_eq_decide, decide_eq_true_iff]
  refine ⟨fun hfirst => ⟨?_, ?_⟩, fun hfirst => ⟨?_, ?_⟩⟩
  · rw [start_accepted hfirst]
    exact Stage.foldl_accepted_iff
  · rintro front rule back rfl hrule
    have hfront : front ≠ [] := by
      rintro rfl
      simp only [List.nil_append, List.head?_cons, Option.mem_some_iff, forall_eq'] at hfirst
      simp [hfirst] at hrule
    -- without the rule the chain still begins with an exclusion
    rw [List.head?_append_of_ne_nil _ hfront] at hfirst
    refine idle_of_step hfront ?_
    rw [start_accepted hfirst, Stage.foldl_accepted]
    split
    · rfl
    next hnone => exact Stage.step_accepted_of_includes (hrule.resolve_right hnone)
  · rw [start_waiting hfirst]
    exact Stage.foldl_waiting_iff
  · rintro front rule back rfl hrule
    have hfront : front ≠ [] := by
      rintro rfl
      simp only [List.nil_append, List.head?_cons, Option.mem_some_iff, exists_eq_left'] at hfirst
      simp [hfirst, BehindFirst] at hrule
    rw [List.head?_append_of_ne_nil _ hfront] at hfirst
    refine idle_of_step hfront ?_
    rw [start_waiting hfirst]
    -- the name is waited for, or a rule has included it, or one has excluded it since
    rcases hrule with ⟨hsign, hnone⟩ | ⟨hsign, hincluded⟩ | ⟨behind, hbehind, hexcluded⟩
    · rw [Stage.foldl_waiting hnone, Stage.step_waiting_of_excludes hsign]
    · exact Stage.step_foldl_of_includes hincluded hsign
    · rw [Stage.foldl_of_behindFirst hbehind, Stage.foldl_accepted, if_pos hexcluded]
      rfl

/-- A rule about the names that hold a letter. -/
def letterRule (sign : Sign) (letter : Char) : Rule := ⟨sign, List.elem letter⟩

/-- A chain that excludes a letter before it includes it. -/
def letterRules : List Rule :=
  [letterRule .includes 'b', letterRule .excludes 'a', letterRule .includes 'a',
    letterRule .excludes 'c']

/-- The name is accepted at the third rule, and the second one makes no difference. Without the first
rule the second one decides. -/
theorem accepts_decided_by_letters :
    (∃ first ∈ letterRules.head?, first.sign = .includes) ∧
      (⟨letterRules⟩ : Filter).accepts ['a'] = true ∧
      Idle ['a'] [letterRule .includes 'b'] (letterRule .excludes 'a')
        [letterRule .includes 'a', letterRule .excludes 'c'] ∧
      (∀ first ∈ letterRules.tail.head?, first.sign = .excludes) ∧
      ¬ (⟨letterRules.tail⟩ : Filter).accepts ['a'] = true := by
  have hbegins : ∃ first ∈ letterRules.head?, first.sign = .includes := ⟨_, rfl, rfl⟩
  have hbegins' : ∀ first ∈ letterRules.tail.head?, first.sign = .excludes := by
    rintro first hfirst
    obtain rfl := Option.some.inj hfirst
    rfl
  obtain ⟨haccepts, hidle⟩ := (accepts_decided_by letterRules ['a']).2 hbegins
  obtain ⟨haccepts', -⟩ := (accepts_decided_by letterRules.tail ['a']).1 hbegins'
  refine ⟨hbegins, haccepts.mpr ?_, hidle _ _ _ rfl (.inl ⟨rfl, by decide⟩), hbegins', ?_⟩
  · refine ⟨[letterRule .excludes 'c'],
      ⟨letterRules.take 2, letterRule .includes 'a', rfl, by decide, by decide⟩, by decide⟩
  · rw [haccepts']
    exact fun hnone => hnone (letterRule .excludes 'a') (by simp [letterRules]) (by decide)

end ServletRoutes.Filter
