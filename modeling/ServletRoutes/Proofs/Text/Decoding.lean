import Mathlib.Data.List.Basic
import ServletRoutes.Text.Basic

/-!
# `ServletRoutes.Proofs.Text.Decoding`: texts that can be read back

A text that was put together from pieces with a separator between them can be
taken apart again, if the separator is in none of the pieces (`splitOn_join`),
and what any text is taken apart into makes it up again (`join_splitOn`).
-/

set_option autoImplicit false

namespace ServletRoutes.Text

variable {x : Text} {c : Char}

/-- A text without the separator is one piece. -/
theorem splitOn_of_notMem (h : c ∉ x) : splitOn c x = [x] := by
  induction x with
  | nil => rfl
  | cons d x ih =>
    rw [List.mem_cons, not_or] at h
    rw [splitOn, if_neg (Ne.symm h.1), ih h.2]

/-- The first piece ends at the first separator. -/
theorem splitOn_append_cons (h : c ∉ x) (y : Text) : splitOn c (x ++ c :: y) = x :: splitOn c y := by
  induction x with
  | nil => rw [List.nil_append, splitOn, if_pos rfl]
  | cons d x ih =>
    rw [List.mem_cons, not_or] at h
    rw [List.cons_append, splitOn, if_neg (Ne.symm h.1), ih h.2]

/-- Pieces that do not hold the separator are found again. -/
theorem splitOn_join {pieces : List Text} (hne : pieces ≠ []) (h : ∀ piece ∈ pieces, c ∉ piece) :
    splitOn c (join [c] pieces) = pieces := by
  match pieces with
  | [] => exact absurd rfl hne
  | [piece] => exact splitOn_of_notMem (h piece List.mem_cons_self)
  | piece :: piece' :: pieces =>
    have hrest := splitOn_join (List.cons_ne_nil piece' pieces) fun q hq =>
      h q (List.mem_cons_of_mem _ hq)
    have hjoin : join [c] (piece :: piece' :: pieces) = piece ++ c :: join [c] (piece' :: pieces) := by
      simp [join]
    rw [hjoin, splitOn_append_cons (h piece List.mem_cons_self), hrest]

/-- A text has a part at least. -/
theorem splitOn_ne_nil (c : Char) (t : Text) : splitOn c t ≠ [] := by
  cases t with
  | nil => exact List.cons_ne_nil _ _
  | cons d t =>
    rw [splitOn]
    split
    · exact List.cons_ne_nil _ _
    · cases splitOn c t <;> exact List.cons_ne_nil _ _

/-- The pieces of a text make it up again. -/
theorem join_splitOn (c : Char) (t : Text) : join [c] (splitOn c t) = t := by
  induction t with
  | nil => rfl
  | cons d t ih =>
    have hne := splitOn_ne_nil c t
    rw [splitOn]
    cases hpieces : splitOn c t with
    | nil => exact absurd hpieces hne
    | cons piece pieces =>
      rw [hpieces] at ih
      split
      next heq =>
        rw [heq]
        exact congrArg (c :: ·) ih
      next hne =>
        cases pieces <;> exact congrArg (d :: ·) ih

/-- A joined text is made of its pieces and the separator. -/
theorem notMem_join {d : Char} {pieces : List Text} (hd : d ≠ c) (h : ∀ piece ∈ pieces, d ∉ piece) :
    d ∉ join [c] pieces := by
  match pieces with
  | [] => exact List.not_mem_nil
  | [piece] => exact h piece List.mem_cons_self
  | piece :: piece' :: pieces =>
    have hrest : d ∉ join [c] (piece' :: pieces) :=
      notMem_join hd fun q hq => h q (List.mem_cons_of_mem _ hq)
    have hfirst : d ∉ piece := h piece List.mem_cons_self
    simp [join, hfirst, hd, hrest]

/-- Replacing a character that does not occur changes nothing. -/
theorem replace_of_notMem {new : Char} (h : c ∉ x) : replace c new x = x := by
  have hsame : ∀ d ∈ x, (if d = c then new else d) = d := by
    intro d hd
    exact if_neg fun heq : d = c => h (heq ▸ hd)
  rw [replace, List.map_congr_left hsame, List.map_id']

end ServletRoutes.Text
