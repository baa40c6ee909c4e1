import Mathlib.Data.List.Infix
import ServletRoutes.Proofs.Text.Occurrence

/-!
# `ServletRoutes.Proofs.Text.Counting`: how often one text stands in another

`Text.occurrences` counts the places at which a needle stands. For markup and
for line endings, which do not overlap, this is the number of matches that a
search from the front comes upon.

`occurrences_append` says that two texts that are put together have the places
of each, if there is none across the seam.
-/

set_option autoImplicit false

namespace ServletRoutes.Text

variable {needle t x y : Text} {c : Char}

/-- The number of places in a text at which the needle stands. -/
def occurrences (needle t : Text) : Nat := t.tails.countP (needle <+: ·)

/-- In front of a text there is one place more, where the needle may stand. -/
theorem occurrences_cons (needle : Text) (c : Char) (t : Text) :
    occurrences needle (c :: t) = occurrences needle t + if needle <+: c :: t then 1 else 0 := by
  rw [occurrences, List.tails_cons, List.countP_cons]
  simp only [decide_eq_true_eq]
  rfl

/-- A needle stands nowhere in a text exactly when it does not occur there. -/
theorem occurrences_eq_zero_iff : occurrences needle t = 0 ↔ ¬ needle <:+: t := by
  simp only [occurrences, List.countP_eq_zero, List.mem_tails, decide_eq_true_eq,
    List.infix_iff_prefix_suffix, not_exists, not_and]
  exact forall_congr' fun _ => imp_not_comm

/-- Two texts that are put together have the places of each, if there is none across the seam. -/
theorem occurrences_append (hne : needle ≠ []) (h : ¬ Crosses needle x y) :
    occurrences needle (x ++ y) = occurrences needle x + occurrences needle y := by
  induction x with
  | nil =>
    have hnil : occurrences needle [] = 0 := occurrences_eq_zero_iff.mpr (by simpa using hne)
    rw [List.nil_append, hnil, Nat.zero_add]
  | cons c x ih =>
    have hrest : ¬ Crosses needle x y := by
      rintro ⟨front, back, hfront, hback, heq, hsuffix, hprefix⟩
      exact h ⟨front, back, hfront, hback, heq, hsuffix.trans (List.suffix_cons c x), hprefix⟩
    -- a needle that stands in front of both ends in the first
    have hfront : needle <+: c :: (x ++ y) ↔ needle <+: c :: x := by
      rw [← List.cons_append]
      refine ⟨fun hprefix => ?_, fun hprefix => hprefix.trans (List.prefix_append _ y)⟩
      rcases List.prefix_or_prefix_of_prefix hprefix (List.prefix_append (c :: x) y) with
        hshort | ⟨back, rfl⟩
      · exact hshort
      · rw [List.prefix_append_right_inj] at hprefix
        by_contra hlong
        refine h ⟨c :: x, back, by simp, ?_, rfl, List.suffix_rfl, hprefix⟩
        rintro rfl
        simp at hlong
    rw [List.cons_append, occurrences_cons, occurrences_cons, ih hrest]
    simp only [hfront]
    omega

end ServletRoutes.Text
