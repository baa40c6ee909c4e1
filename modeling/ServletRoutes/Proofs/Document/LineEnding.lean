import Mathlib.Data.List.Basic
import ServletRoutes.Document.LineEnding
import ServletRoutes.Proofs.Text.Occurrence

/-!
# `ServletRoutes.Proofs.Document.LineEnding`: detection across a seam

A document has two-character line endings as soon as one of them occurs in
it. Putting texts together can make one that neither part has: a carriage
return at the end of the first meets a line feed at the beginning of the
second. `crlf_infix_append_iff` says that this is the only way, and
`crlf_infix_between_iff` says it for a text without returns between two
others, which is what opening or refilling a region puts together.
-/

set_option autoImplicit false

namespace ServletRoutes.Document.LineEnding

variable {t x y mid : Text}

/-- A document with a CRLF in it is taken for one with CRLF. -/
theorem detect_eq_crlf_iff : detect t = crlf ↔ crlf.text <:+: t := by
  rw [detect, ← Text.contains_iff]
  split <;> simp_all

/-- A document without a CRLF is taken for one with LF. -/
theorem detect_eq_lf_iff : detect t = lf ↔ ¬ crlf.text <:+: t := by
  rw [detect, ← Text.contains_iff]
  split <;> simp_all

/-- No part of a document with one-character line endings has a two-character one. -/
theorem not_infix_of_detect_lf (h : detect t = lf) (hpart : x <:+: t) : ¬ crlf.text <:+: x :=
  fun hin => detect_eq_lf_iff.mp h (hin.trans hpart)

/-- A two-character line ending in two texts put together is in one of them, or made of the last
character of the first and the first character of the second. -/
theorem crlf_infix_append_iff :
    crlf.text <:+: x ++ y ↔ crlf.text <:+: x ∨ crlf.text <:+: y ∨
      (x.getLast? = some '\r' ∧ y.head? = some '\n') := by
  rw [List.infix_append_iff_ne_nil]
  refine or_congr_right (or_congr_right ⟨?_, ?_⟩)
  · rintro ⟨front, back, hfront, hback, heq, ⟨before, rfl⟩, ⟨after, rfl⟩⟩
    -- both parts have one character, for the two together have two
    obtain ⟨rfl, rfl⟩ : front = ['\r'] ∧ back = ['\n'] := by
      cases front with
      | nil => exact absurd rfl hfront
      | cons c front =>
        cases front with
        | nil => simpa [text, eq_comm] using heq
        | cons d front =>
          cases back with
          | nil => exact absurd rfl hback
          | cons e back => simp [text] at heq
    exact ⟨List.getLast?_concat, rfl⟩
  · rintro ⟨hx, hy⟩
    obtain ⟨before, rfl⟩ := List.getLast?_eq_some_iff.mp hx
    obtain ⟨after, rfl⟩ := List.head?_eq_some_iff.mp hy
    exact ⟨['\r'], ['\n'], by simp, by simp, rfl, List.suffix_append before ['\r'],
      List.prefix_append ['\n'] after⟩

/-- A text without returns between two others: a two-character line ending is in the first or the
last, or the first ends with a return before a line feed. -/
theorem crlf_infix_between_iff {c : Char} (hmid : '\r' ∉ mid) (hc : mid.head? = some c) :
    crlf.text <:+: x ++ (mid ++ y) ↔ crlf.text <:+: x ∨ crlf.text <:+: y ∨
      (x.getLast? = some '\r' ∧ c = '\n') := by
  have hne : mid ≠ [] := by
    rintro rfl
    simp at hc
  have hnone : ¬ crlf.text <:+: mid :=
    Text.not_infix_of_mem_of_notMem (by simp [text]) hmid
  have hlast : ¬ mid.getLast? = some '\r' := fun h => hmid (List.mem_of_getLast? h)
  rw [crlf_infix_append_iff, crlf_infix_append_iff, List.head?_append_of_ne_nil _ hne, hc]
  simp only [hnone, hlast, false_and, or_false, false_or, Option.some.injEq]

end ServletRoutes.Document.LineEnding
