import Mathlib.Logic.Relation
import ServletRoutes.Pattern.Expr

/-!
# `ServletRoutes.Proofs.Pattern.Language`: what a pattern matches

A pattern matches a part of a text, given by the spots where the part begins
and ends: spot `i` stands before the character with number `i`, and the last
one behind the last character. `Expr.Matches` says this constructor by
constructor, by relations between spots, with none of the machinery that finds
matches.

Repetition is `Steps`. A match never leads back (`Expr.Matches.le`), so a run of
more steps than there are characters stays at some spot, and it makes no
difference how often it does so (`steps_iff_of_lt`). This is why a search may
cut the number of repetitions.
-/

set_option autoImplicit false

namespace ServletRoutes.Pattern

open Relation

variable {r s : Nat → Nat → Prop} {i j k m n : Nat} {text : Text}

/-! ### Steps -/

/-- So many steps in a row. -/
def Steps (r : Nat → Nat → Prop) : Nat → Nat → Nat → Prop
  | 0 => Eq
  | n + 1 => Comp r (Steps r n)

/-- No steps lead nowhere else. -/
@[simp] theorem steps_zero : Steps r 0 i j ↔ i = j := Iff.rfl

/-- One more step is taken first. -/
theorem steps_succ : Steps r (n + 1) i j ↔ ∃ k, r i k ∧ Steps r n k j := Iff.rfl

/-- One step is a step. -/
theorem steps_one : Steps r 1 = r := Relation.comp_eq

/-- Steps can be parted anywhere. -/
theorem steps_add : Steps r (n + m) = Comp (Steps r n) (Steps r m) := by
  induction n with
  | zero => rw [Nat.zero_add]; exact Relation.eq_comp.symm
  | succ n ih =>
    rw [Nat.add_right_comm, Steps, ih, Steps, Relation.comp_assoc]

/-- Steps can be parted anywhere, at some spot between. -/
theorem steps_add_iff : Steps r (n + m) i j ↔ ∃ k, Steps r n i k ∧ Steps r m k j := by
  rw [steps_add]
  rfl

/-- What every step preserves, all steps together do. -/
theorem steps_preserve {p : Nat → Prop} (hr : ∀ i j, r i j → p i → p j) (h : Steps r n i j)
    (hi : p i) : p j := by
  induction n generalizing i with
  | zero => exact h ▸ hi
  | succ n ih =>
    obtain ⟨k, hstep, hsteps⟩ := h
    exact ih hsteps (hr i k hstep hi)

/-- Steps that may be left out are fewer steps. -/
theorem steps_or_eq : Steps (fun i j => r i j ∨ i = j) n i j ↔ ∃ m ≤ n, Steps r m i j := by
  induction n generalizing i with
  | zero => simp
  | succ n ih =>
    simp only [steps_succ, ih]
    constructor
    · rintro ⟨k, hstep | rfl, m, hm, hsteps⟩
      · exact ⟨m + 1, by omega, k, hstep, hsteps⟩
      · exact ⟨m, by omega, hsteps⟩
    · rintro ⟨m, hm, hsteps⟩
      cases m with
      | zero => exact ⟨i, .inr rfl, 0, Nat.zero_le n, hsteps⟩
      | succ m =>
        obtain ⟨k, hstep, hsteps⟩ := hsteps
        exact ⟨k, .inl hstep, m, by omega, hsteps⟩

/-- A chain that may be empty is some number of steps. -/
theorem reflTransGen_iff_steps : ReflTransGen r i j ↔ ∃ n, Steps r n i j := by
  constructor
  · intro h
    induction h using ReflTransGen.head_induction_on with
    | refl => exact ⟨0, rfl⟩
    | head hstep _ ih =>
      obtain ⟨n, hsteps⟩ := ih
      exact ⟨n + 1, _, hstep, hsteps⟩
  · rintro ⟨n, h⟩
    induction n generalizing i with
    | zero => exact h ▸ .refl
    | succ n ih =>
      obtain ⟨k, hstep, hsteps⟩ := h
      exact .head hstep (ih hsteps)

/-- A chain that is not empty is one step more than some number. -/
theorem transGen_iff_steps : TransGen r i j ↔ ∃ n, Steps r (n + 1) i j := by
  rw [TransGen.head'_iff]
  simp only [reflTransGen_iff_steps, steps_succ]
  exact ⟨fun ⟨k, hstep, n, hsteps⟩ => ⟨n, k, hstep, hsteps⟩,
    fun ⟨n, k, hstep, hsteps⟩ => ⟨k, hstep, n, hsteps⟩⟩

/-! ### Steps that never lead back -/

/-- The relation never leads back. -/
def Forward (r : Nat → Nat → Prop) : Prop := ∀ ⦃i j⦄, r i j → i ≤ j

/-- Forward and forward again leads forward. -/
theorem Forward.comp (hr : Forward r) (hs : Forward s) : Forward (Comp r s) := by
  rintro i j ⟨k, hik, hkj⟩
  exact Nat.le_trans (hr hik) (hs hkj)

/-- Any number of steps forward leads forward. -/
theorem Forward.steps (hr : Forward r) (n : Nat) : Forward (Steps r n) := by
  induction n with
  | zero => exact fun _ _ h => Nat.le_of_eq h
  | succ n ih => exact hr.comp ih

/-- A chain of steps forward leads forward. -/
theorem Forward.transGen (hr : Forward r) : Forward (TransGen r) := by
  intro i j h
  obtain ⟨n, hsteps⟩ := transGen_iff_steps.1 h
  exact hr.steps _ hsteps

/-- The last steps of a chain that lead on. -/
theorem Forward.reflTransGen_cases (hr : Forward r) (h : ReflTransGen r i j) :
    i = j ∨ ∃ k < j, ReflTransGen r i k ∧ r k j := by
  induction h with
  | refl => exact .inl rfl
  | @tail k j hik hkj ih =>
    rcases Nat.eq_or_lt_of_le (hr hkj) with rfl | hlt
    · exact ih
    · exact .inr ⟨k, hlt, hik, hkj⟩

/-- A run of more steps than it has room for stays at a spot, where it may stay once more. -/
theorem Forward.steps_succ_of_lt (hr : Forward r) (hlt : j - i < n) (h : Steps r n i j) :
    Steps r (n + 1) i j := by
  induction n generalizing i with
  | zero => omega
  | succ n ih =>
    obtain ⟨k, hstep, hsteps⟩ := h
    have hik : i ≤ k := hr hstep
    have hkj : k ≤ j := hr.steps n hsteps
    rcases Nat.eq_or_lt_of_le hik with rfl | hlt'
    · exact ⟨i, hstep, i, hstep, hsteps⟩
    · exact ⟨k, hstep, ih (by omega) hsteps⟩

/-- It may also stay there once less. -/
theorem Forward.steps_of_succ_of_lt (hr : Forward r) (hlt : j - i < n) (h : Steps r (n + 1) i j) :
    Steps r n i j := by
  induction n generalizing i with
  | zero => omega
  | succ n ih =>
    obtain ⟨k, hstep, hsteps⟩ := h
    have hik : i ≤ k := hr hstep
    have hkj : k ≤ j := hr.steps (n + 1) hsteps
    rcases Nat.eq_or_lt_of_le hik with rfl | hlt'
    · exact hsteps
    · exact ⟨k, hstep, ih (by omega) hsteps⟩

/-- All runs that are longer than the way come to the same. -/
theorem Forward.steps_iff_of_lt (hr : Forward r) (hn : j - i < n) (hm : j - i < m) :
    Steps r n i j ↔ Steps r m i j := by
  have hup : ∀ {n}, j - i < n → ∀ d, Steps r n i j ↔ Steps r (n + d) i j := by
    intro n hn d
    induction d with
    | zero => rfl
    | succ d ih =>
      have hlt : j - i < n + d := by omega
      exact ih.trans ⟨hr.steps_succ_of_lt hlt, hr.steps_of_succ_of_lt hlt⟩
  rw [hup hn m, hup hm n, Nat.add_comm]

/-! ### Matches -/

/-- The tests that hold at a spot of the text. -/
def Spot.holdsAt (text : Text) (i : Nat) : Spot → Bool :=
  Spot.holds (text.take i).getLast? (text.drop i).head?

/-- A character of the set stands between the two spots. -/
def CharSet.Reads (text : Text) (set : CharSet) (i j : Nat) : Prop :=
  ∃ c, text[i]? = some c ∧ set.contains c = true ∧ j = i + 1

/-- The pattern matches the part of the text between two spots. -/
def Expr.Matches (text : Text) : Expr → Nat → Nat → Prop
  | empty => Eq
  | word w => fun i j => w <+: text.drop i ∧ j = i + w.length
  | one set _ => set.Reads text
  | spot test => fun i j => Spot.holdsAt text i test = true ∧ i = j
  | seq first second => Comp (first.Matches text) (second.Matches text)
  | either left right => fun i j => left.Matches text i j ∨ right.Matches text i j
  -- a bound that is below `least` is the same as `least`
  | iterate body least most _ => fun i j =>
    ∃ n, least ≤ n ∧ (∀ bound ∈ most, n ≤ max least bound) ∧ Steps (body.Matches text) n i j
  | group body => body.Matches text

namespace Expr

/-- A match does not end before it begins. -/
theorem Matches.le {e : Expr} (h : e.Matches text i j) : i ≤ j := by
  induction e generalizing i j with
  | empty => exact Nat.le_of_eq h
  | word w => exact h.2 ▸ Nat.le_add_right i _
  | one set _ =>
    obtain ⟨_, _, _, rfl⟩ := h
    exact Nat.le_succ i
  | spot test => exact Nat.le_of_eq h.2
  | seq first second ihf ihs =>
    obtain ⟨k, hfirst, hsecond⟩ := h
    exact Nat.le_trans (ihf hfirst) (ihs hsecond)
  | either left right ihl ihr => exact h.elim ihl ihr
  | iterate body least most _ ih =>
    obtain ⟨n, _, _, hsteps⟩ := h
    exact Forward.steps (fun _ _ => ih) n hsteps
  | group body ih => exact ih h

/-- Matches lead forward. -/
theorem forward_matches (text : Text) (e : Expr) : Forward (e.Matches text) := fun _ _ => Matches.le

/-- A match ends within the text, unless it begins behind it and matches nothing there. -/
theorem Matches.le_of_le {e : Expr} {bound : Nat} (h : e.Matches text i j)
    (hlength : text.length ≤ bound) (hi : i ≤ bound) : j ≤ bound := by
  induction e generalizing i j with
  | empty => exact h ▸ hi
  | word w =>
    obtain ⟨hw, rfl⟩ := h
    have hle := hw.length_le
    rw [List.length_drop] at hle
    omega
  | one set _ =>
    obtain ⟨c, hc, _, rfl⟩ := h
    have hlt := (List.getElem?_eq_some_iff.1 hc).1
    omega
  | spot test => exact h.2 ▸ hi
  | seq first second ihf ihs =>
    obtain ⟨k, hfirst, hsecond⟩ := h
    exact ihs hsecond (ihf hfirst hi)
  | either left right ihl ihr => exact h.elim (ihl · hi) (ihr · hi)
  | iterate body least most _ ih =>
    -- the bound is kept by each step, and so by any number of them
    obtain ⟨n, _, _, hsteps⟩ := h
    exact steps_preserve (p := (· ≤ bound)) (fun _ _ => ih) hsteps hi
  | group body ih => exact ih h hi

end Expr

end ServletRoutes.Pattern
