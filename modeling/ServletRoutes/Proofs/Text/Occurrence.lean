import ServletRoutes.Text.Basic

/-!
# `ServletRoutes.Proofs.Text.Occurrence`: where one text occurs in another

`Text.cut?` finds the first occurrence of a needle. The theorems tie it to
the infix relation of lists:

* `cut?_eq_none_iff` and `contains_iff`: nothing is found exactly when the
  needle is no infix.
* `cut?_eq_some_iff`: a cut is found at `before` exactly when the needle
  stands behind `before` and does not occur earlier. What follows the needle
  plays no part, so a text may be exchanged behind a first occurrence.
* `infix_append_iff`: where two texts are put together and the needle does not
  cross the seam, it occurs in one of them.
-/

set_option autoImplicit false

namespace ServletRoutes.Text

variable {needle start t rest before after x y : Text} {c : Char}

/-! ### Beginnings -/

/-- Stripping the beginning of an assembled text gives the rest. -/
theorem stripStart?_append (start rest : Text) : stripStart? start (start ++ rest) = some rest := by
  induction start with
  | nil => cases rest <;> rfl
  | cons s start ih => simp [stripStart?, ih]

/-- Stripping fails exactly when the text does not begin so. -/
theorem stripStart?_eq_none_iff : stripStart? start t = none ↔ ¬ start <+: t := by
  rw [Option.eq_none_iff_forall_ne_some]
  constructor
  · rintro h ⟨rest, rfl⟩
    exact h rest (stripStart?_append start rest)
  · intro h rest hrest
    exact h ⟨rest, (stripStart?_eq_some hrest).symm⟩

/-! ### First occurrences -/

/-- Nothing is cut exactly when the needle does not occur. -/
theorem cut?_eq_none_iff : cut? needle t = none ↔ ¬ needle <:+: t := by
  induction t with
  | nil =>
    rw [List.infix_nil, cut?]
    split <;> simp_all
  | cons c t ih =>
    rw [List.infix_cons_iff, not_or, ← ih, ← stripStart?_eq_none_iff, cut?]
    split
    next after hstrip => simp [hstrip]
    next hstrip => simp [hstrip]

/-- `contains` decides the infix relation. -/
theorem contains_iff : contains needle t = true ↔ needle <:+: t := by
  rw [contains, Option.isSome_iff_ne_none, ne_eq, cut?_eq_none_iff, Decidable.not_not]

/-- `contains` fails exactly when the needle does not occur. -/
theorem contains_eq_false_iff : contains needle t = false ↔ ¬ needle <:+: t := by
  rw [← contains_iff, Bool.not_eq_true]

/-- A needle is longer than itself without its last character. -/
private theorem not_infix_dropLast (hne : needle ≠ []) : ¬ needle <:+: needle.dropLast := by
  intro h
  have hlen := h.length_le
  have hpos := List.length_pos_iff.mpr hne
  rw [List.length_dropLast] at hlen
  omega

/-- Whether the needle stands at the front of `c :: before ++ needle ++ after` is seen before the
last character of the marked occurrence. -/
private theorem prefix_cons_append_iff (c : Char) (before after : Text) (hne : needle ≠ []) :
    needle <+: c :: (before ++ needle ++ after) ↔ needle <+: c :: (before ++ needle.dropLast) := by
  have hpos := List.length_pos_iff.mpr hne
  have hshort : c :: (before ++ needle.dropLast) <+: c :: (before ++ needle ++ after) := by
    rw [List.cons_prefix_cons, List.append_assoc, List.prefix_append_right_inj]
    exact ⟨rfl, (List.dropLast_prefix needle).trans (List.prefix_append needle after)⟩
  constructor
  · intro h
    refine List.prefix_of_prefix_length_le h hshort ?_
    simp only [List.length_cons, List.length_append, List.length_dropLast]
    omega
  · intro h
    exact h.trans hshort

/-- The cut of an assembled text is at the marked occurrence exactly when the needle does not
occur earlier. An earlier occurrence ends before the last character of the marked one. -/
theorem cut?_append_iff (hne : needle ≠ []) :
    cut? needle (before ++ needle ++ after) = some (before, after) ↔
      ¬ needle <:+: before ++ needle.dropLast := by
  induction before with
  | nil =>
    simp only [List.nil_append, not_infix_dropLast hne, not_false_iff, iff_true]
    cases needle with
    | nil => exact absurd rfl hne
    | cons s start =>
      rw [List.cons_append, cut?, ← List.cons_append, stripStart?_append]
  | cons c before ih =>
    simp only [List.cons_append]
    rw [List.infix_cons_iff, not_or, ← ih, ← prefix_cons_append_iff c before after hne,
      ← stripStart?_eq_none_iff, cut?]
    split
    next rest hstrip => simp [hstrip, -List.append_assoc]
    next hstrip => simp [hstrip, -List.append_assoc]

/-- A cut is found at the first occurrence, and only there. -/
theorem cut?_eq_some_iff (hne : needle ≠ []) :
    cut? needle t = some (before, after) ↔
      t = before ++ needle ++ after ∧ ¬ needle <:+: before ++ needle.dropLast := by
  constructor
  · intro h
    obtain rfl := cut?_eq_some h
    exact ⟨rfl, (cut?_append_iff hne).mp h⟩
  · rintro ⟨rfl, h⟩
    exact (cut?_append_iff hne).mpr h

/-! ### Occurrences in texts that are put together -/

/-- An occurrence of the needle that begins in `x` and ends in `y`. -/
def Crosses (needle x y : Text) : Prop :=
  ∃ front back, front ≠ [] ∧ back ≠ [] ∧ needle = front ++ back ∧ front <:+ x ∧ back <+: y

/-- A needle that does not cross the seam of two texts occurs in one of them. -/
theorem infix_append_iff (h : ¬ Crosses needle x y) :
    needle <:+: x ++ y ↔ needle <:+: x ∨ needle <:+: y := by
  rw [List.infix_append_iff_ne_nil, ← or_assoc]
  exact or_iff_left h

/-- A seam in front of a character that is not in the needle is not crossed. -/
theorem not_crosses_of_head (h : ∀ c ∈ y.head?, c ∉ needle) : ¬ Crosses needle x y := by
  rintro ⟨front, back, -, hback, rfl, -, ⟨rest, rfl⟩⟩
  cases back with
  | nil => exact hback rfl
  | cons c back => exact h c rfl (List.mem_append_right front List.mem_cons_self)

/-- A seam behind a character that is not in the needle is not crossed. -/
theorem not_crosses_of_getLast (h : ∀ c ∈ x.getLast?, c ∉ needle) : ¬ Crosses needle x y := by
  rintro ⟨front, back, hfront, -, rfl, ⟨rest, rfl⟩, -⟩
  have hlast : (rest ++ front).getLast? = some (front.getLast hfront) := by
    rw [List.getLast?_append, List.getLast?_eq_some_getLast hfront]
    rfl
  exact h _ hlast (List.mem_append_left back (List.getLast_mem hfront))

/-- A needle with a character that a text lacks does not occur in the text. -/
theorem not_infix_of_mem_of_notMem (hc : c ∈ needle) (ht : c ∉ t) : ¬ needle <:+: t :=
  fun h => ht (h.subset hc)

end ServletRoutes.Text
