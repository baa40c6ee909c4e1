import ServletRoutes.Proofs.Text.Decoding

/-!
# `ServletRoutes.Proofs.Text.Replacement`: occurrences after a replacement

A character that is put in place of another one could make new occurrences of
a needle. It makes none where neither the needle nor the text held it before:
such texts begin in the same way after the replacement only if they did so
before it (`stripStart?_replace`), and the needle is found at the same place
(`cut?_replace`). Nor is anything lost (`replace_replace`).
-/

set_option autoImplicit false

namespace ServletRoutes.Text

variable {old new c d : Char} {s t : Text}

/-- The first character is replaced, and so is the rest. -/
theorem replace_cons (old new c : Char) (t : Text) :
    replace old new (c :: t) = (if c = old then new else c) :: replace old new t := List.map_cons

/-- Each part of a text is replaced by itself. -/
theorem replace_append (old new : Char) (s t : Text) :
    replace old new (s ++ t) = replace old new s ++ replace old new t := List.map_append

/-- Only the old character becomes the new one. -/
private theorem replaced_eq_iff (hc : c ≠ new) (hd : d ≠ new) :
    ((if c = old then new else c) = if d = old then new else d) ↔ c = d := by
  by_cases hold : c = old
  · by_cases hold' : d = old
    · simp [hold, hold']
    · rw [if_pos hold, if_neg hold']
      exact iff_of_false hd.symm fun h => hold' (h.symm.trans hold)
  · by_cases hold' : d = old
    · rw [if_neg hold, if_pos hold']
      exact iff_of_false hc fun h => hold (h.trans hold')
    · rw [if_neg hold, if_neg hold']

/-- A replacement is undone by the opposite one. -/
theorem replace_replace (h : new ∉ t) : replace new old (replace old new t) = t := by
  have hsame : ∀ c ∈ t, (if (if c = old then new else c) = new then old else
      if c = old then new else c) = c := by
    intro c hc
    have hne : c ≠ new := ne_of_mem_of_not_mem hc h
    by_cases hold : c = old <;> simp [hold, hne]
  rw [replace, replace, List.map_map]
  exact (List.map_congr_left hsame).trans (List.map_id' t)

/-- What is stripped after the replacement is what was stripped before it. -/
theorem stripStart?_replace (hs : new ∉ s) (ht : new ∉ t) :
    stripStart? (replace old new s) (replace old new t) =
      (stripStart? s t).map (replace old new) := by
  induction s generalizing t with
  | nil => cases t <;> rfl
  | cons c s ih =>
    cases t with
    | nil => rfl
    | cons d t =>
      rw [List.mem_cons, not_or] at hs ht
      rw [replace_cons, replace_cons, stripStart?, stripStart?, ih hs.2 ht.2]
      simp only [replaced_eq_iff (Ne.symm hs.1) (Ne.symm ht.1)]
      split
      · rfl
      · rfl

/-- A needle is found at the same place before and after the replacement. -/
theorem cut?_replace (hs : new ∉ s) (ht : new ∉ t) :
    cut? (replace old new s) (replace old new t) =
      (cut? s t).map fun parts => (replace old new parts.1, replace old new parts.2) := by
  induction t with
  | nil => cases s <;> rfl
  | cons c t ih =>
    have hstrip : stripStart? (replace old new s) (replace old new (c :: t)) =
        (stripStart? s (c :: t)).map (replace old new) := stripStart?_replace hs ht
    rw [List.mem_cons, not_or] at ht
    rw [replace_cons] at hstrip ⊢
    rw [cut?, cut?, hstrip, ih ht.2]
    cases stripStart? s (c :: t) with
    | some after => rfl
    | none =>
      show Option.map _ (Option.map _ _) = Option.map _ (Option.map _ _)
      rw [Option.map_map, Option.map_map]
      rfl

end ServletRoutes.Text
