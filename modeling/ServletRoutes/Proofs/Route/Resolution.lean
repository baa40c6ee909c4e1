import ServletRoutes.Route.Resolution
import ServletRoutes.Proofs.Outcome

/-!
# `ServletRoutes.Proofs.Route.Resolution`: what a resolution reads from a store

A resolution reads two keys per type: the explicit routes, of which only the
first occurrences count, and the roles, of which the exact sequence counts.
Two stores that agree on the first occurrences of all routes therefore give
the same patterns and the same faults (`Policy.patterns_eq`), and the
mappings differ at most in what the roles say (`Policy.resolveNames_map`).
-/

set_option autoImplicit false

namespace ServletRoutes.Route

open Annotations (Store)

variable {policy : Policy} {s s' : Store} {typeName t : Text} {ts us : List Text}

/-! ### Repeats -/

/-- The texts of a list are those that are left without repeats. -/
theorem mem_withoutRepeats : t ∈ withoutRepeats ts ↔ t ∈ ts := by
  induction ts with
  | nil => rfl
  | cons u ts ih =>
    rw [withoutRepeats, List.mem_cons, List.mem_filter, ih, List.mem_cons]
    by_cases h : t = u <;> simp [h]

/-- Nothing is left only of the list without texts. -/
theorem withoutRepeats_eq_nil_iff : withoutRepeats ts = [] ↔ ts = [] := by
  cases ts <;> simp [withoutRepeats]

/-- Of a second list only the texts that are not in the first one are left. -/
theorem withoutRepeats_append (ts us : List Text) :
    withoutRepeats (ts ++ us) =
      withoutRepeats ts ++ (withoutRepeats us).filter fun u => u ∉ ts := by
  induction ts with
  | nil => rw [List.nil_append, withoutRepeats, List.nil_append, List.filter_eq_self.mpr (by simp)]
  | cons t ts ih =>
    rw [List.cons_append, withoutRepeats, withoutRepeats, ih, List.filter_append, List.filter_filter,
      List.cons_append]
    simp only [List.mem_cons, not_or, Bool.decide_and]

/-- A second list with texts of the first one only adds nothing. -/
theorem withoutRepeats_append_of_subset (h : ∀ u ∈ us, u ∈ ts) :
    withoutRepeats (ts ++ us) = withoutRepeats ts := by
  rw [withoutRepeats_append, List.filter_eq_nil_iff.mpr, List.append_nil]
  intro u hu
  simpa using h u (mem_withoutRepeats.mp hu)

/-! ### Patterns and mappings -/

namespace Policy

/-- The patterns of a type, and the fault in their place, depend on the first occurrences of its
explicit routes. -/
theorem patterns_eq (h : withoutRepeats (policy.explicitRoutes s' typeName) =
    withoutRepeats (policy.explicitRoutes s typeName)) :
    policy.patterns s' typeName = policy.patterns s typeName := by
  have hnil : policy.explicitRoutes s' typeName = [] ↔ policy.explicitRoutes s typeName = [] := by
    rw [← withoutRepeats_eq_nil_iff, h, withoutRepeats_eq_nil_iff]
  simp only [patterns, h, ne_eq, hnil]

end Policy

/-- A resolution with other mappings in place of its own. -/
def Resolution.mapMappings (change : Mapping → Mapping) (r : Resolution) : Resolution :=
  { r with mappings := r.mappings.map change }

namespace Policy

/-- Where another store gives the same patterns and changes every mapping in one way, the whole
resolution changes in this way and no other. -/
theorem resolveNames_map {change : Mapping → Mapping}
    (hpatterns : ∀ name, policy.patterns s' name = policy.patterns s name)
    (hmapping : ∀ name ps, policy.mapping s' name ps = change (policy.mapping s name ps))
    (names : List Text) :
    policy.resolveNames s' names =
      (policy.resolveNames s names).map (Resolution.mapMappings change) := by
  induction names with
  | nil => rfl
  | cons name names ih =>
    rw [resolveNames, resolveNames, hpatterns]
    split
    next hexcluded => exact ih
    next hincluded =>
      cases policy.patterns s name with
      | error fault => rfl
      | ok ps =>
        rw [ih]
        cases policy.resolveNames s names with
        | error fault => rfl
        | ok r =>
          by_cases hps : ps = []
          · simp [Except.map, Resolution.mapMappings, hps]
          · simp [Except.map, Resolution.mapMappings, hps, hmapping]

end Policy

end ServletRoutes.Route
