/-!
# `ServletRoutes.Proofs.Outcome`: outcomes of operations that can fail

Operations that can fail hand their result on with `Except.map`, and
`map_eq_ok_iff` says what a mapped success tells about the outcome itself.
Two outcomes are `Alike` when they have the same fault, or results that are
related.
-/

set_option autoImplicit false

namespace ServletRoutes

variable {ε α β : Type} {f : α → β} {outcome : Except ε α} {b : β}

/-- A mapped outcome is a success exactly when the outcome is one that is mapped to it. -/
theorem map_eq_ok_iff : outcome.map f = .ok b ↔ ∃ a, outcome = .ok a ∧ f a = b := by
  cases outcome <;> simp [Except.map]

/-- A mapped outcome has the fault of the outcome. -/
theorem map_eq_error_iff {fault : ε} : outcome.map f = .error fault ↔ outcome = .error fault := by
  cases outcome <;> simp [Except.map]

/-- An outcome that leaves a result is a success. The options of a result can be compared where the
outcomes themselves cannot. -/
theorem eq_ok_of_toOption {a : α} (h : outcome.toOption = some a) :
    outcome = .ok a := by
  cases outcome with
  | error fault => simp [Except.toOption] at h
  | ok b => simpa [Except.toOption] using h

/-- Two outcomes have the same fault, or results that are related. -/
inductive Alike {γ : Type} (related : α → γ → Prop) : Except ε α → Except ε γ → Prop
  | fault (fault : ε) : Alike related (.error fault) (.error fault)
  | result {a : α} {c : γ} (h : related a c) : Alike related (.ok a) (.ok c)

/-- Outcomes that are alike are alike in each weaker sense. -/
theorem Alike.imp {γ : Type} {related related' : α → γ → Prop} {outcome' : Except ε γ}
    (h : Alike related outcome outcome') (himp : ∀ a c, related a c → related' a c) :
    Alike related' outcome outcome' := by
  cases h with
  | fault fault => exact .fault fault
  | result h => exact .result (himp _ _ h)

/-- Outcomes that are alike stay so when what is made of their results is related. -/
theorem Alike.map {γ δ : Type} {related : α → γ → Prop} {related' : β → δ → Prop} {g : γ → δ}
    {outcome' : Except ε γ} (h : Alike related outcome outcome')
    (hmap : ∀ a c, related a c → related' (f a) (g c)) :
    Alike related' (outcome.map f) (outcome'.map g) := by
  cases h with
  | fault fault => exact .fault fault
  | result h => exact .result (hmap _ _ h)

end ServletRoutes
