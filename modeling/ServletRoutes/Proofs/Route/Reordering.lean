import Mathlib.Data.List.Forall2
import Mathlib.Data.List.Nodup
import Mathlib.Data.List.Perm.Basic
import ServletRoutes.Proofs.Annotations.Store
import ServletRoutes.Proofs.Route.Resolution

/-!
# `ServletRoutes.Proofs.Route.Reordering`: tokens in another order

The order in which tokens reached the store decides about the order of the
URL patterns in a mapping and about nothing else. Over a store with the same
tokens in another order the same fault is reported, or the same types are
mapped and skipped in the same order, with the same elevations and the same
patterns up to their order (`Policy.resolve_reordered`). The resolutions are
equal exactly when no mapped type has its routes in another order of first
occurrence (`Policy.resolve_eq_iff`).
-/

set_option autoImplicit false

namespace ServletRoutes.Route

open Annotations (Store)

variable {policy : Policy} {s s' : Store} {ts us : List Text}

/-! ### Repeats -/

/-- There is nothing in one order exactly when there is nothing in another one. -/
theorem eq_nil_iff_of_perm (h : ts.Perm us) : ts = [] ↔ us = [] := by
  rw [← List.length_eq_zero_iff, h.length_eq, List.length_eq_zero_iff]

/-- No text is left twice. -/
theorem nodup_withoutRepeats (ts : List Text) : (withoutRepeats ts).Nodup := by
  induction ts with
  | nil => exact List.nodup_nil
  | cons t ts ih =>
    rw [withoutRepeats, List.nodup_cons]
    exact ⟨by simp, ih.filter _⟩

/-- Texts in another order leave the same texts. -/
theorem withoutRepeats_perm (h : ts.Perm us) : (withoutRepeats ts).Perm (withoutRepeats us) := by
  refine (List.perm_ext_iff_of_nodup (nodup_withoutRepeats ts) (nodup_withoutRepeats us)).mpr ?_
  intro t
  rw [mem_withoutRepeats, mem_withoutRepeats, h.mem_iff]

/-! ### Mappings that differ in the order of patterns -/

/-- Two mappings are the same but for the order of their patterns. -/
structure Mapping.Reordered (m m' : Mapping) : Prop where
  typeName : m.typeName = m'.typeName
  servletName : m.servletName = m'.servletName
  patterns : m.patterns.Perm m'.patterns
  elevated : m.elevated = m'.elevated

/-- Two resolutions are the same but for the order of patterns in their mappings. -/
structure Resolution.Reordered (r r' : Resolution) : Prop where
  mappings : List.Forall₂ Mapping.Reordered r.mappings r'.mappings
  skipped : r.skipped = r'.skipped

/-- Mappings that differ in the order of patterns are equal if the patterns are. -/
theorem Mapping.Reordered.eq_of_patterns {m m' : Mapping} (h : m.Reordered m')
    (hpatterns : m.patterns = m'.patterns) : m = m' := by
  obtain ⟨typeName, servletName, patterns, elevated⟩ := m
  obtain ⟨hname, hservlet, -, helevated⟩ := h
  simp only at hname hservlet helevated hpatterns
  rw [hname, hservlet, helevated, hpatterns]

namespace Resolution.Reordered

variable {r r' : Resolution}

/-- Resolutions that differ in the order of patterns are equal if the mappings are. -/
theorem eq_of_mappings (h : r.Reordered r') (hmappings : r.mappings = r'.mappings) : r = r' := by
  obtain ⟨mappings, skipped⟩ := r
  obtain ⟨-, hskipped⟩ := h
  simp only at hskipped hmappings
  rw [hmappings, hskipped]

/-- There are equally many URL patterns. -/
theorem patternCount_eq (h : r.Reordered r') : r.patternCount = r'.patternCount := by
  have hmappings := h.mappings
  rw [patternCount, patternCount]
  generalize r.mappings = ms, r'.mappings = ms' at hmappings ⊢
  induction hmappings with
  | nil => rfl
  | cons hm _ ih => rw [total_cons, total_cons, hm.patterns.length_eq, ih]

/-- There are equally many URL patterns of elevated mappings. -/
theorem elevatedPatternCount_eq (h : r.Reordered r') :
    r.elevatedPatternCount = r'.elevatedPatternCount := by
  have hmappings := h.mappings
  rw [elevatedPatternCount, elevatedPatternCount]
  generalize r.mappings = ms, r'.mappings = ms' at hmappings ⊢
  induction hmappings with
  | nil => rfl
  | @cons m m' _ _ hm _ ih =>
    rw [List.filter_cons, List.filter_cons, hm.elevated]
    cases m'.elevated with
    | false => exact ih
    | true => exact congrArg₂ (· + ·) hm.patterns.length_eq ih

end Resolution.Reordered

/-! ### Resolutions over reordered stores -/

namespace Policy

/-- A type has its patterns in another order, or the fault that it had. -/
theorem patterns_reordered (h : s.Permuted s') (name : Text) :
    Alike List.Perm (policy.patterns s name) (policy.patterns s' name) := by
  have hroutes : (policy.explicitRoutes s name).Perm (policy.explicitRoutes s' name) := h _
  simp only [patterns, ne_eq, eq_nil_iff_of_perm hroutes]
  split
  · exact .result (withoutRepeats_perm hroutes)
  · split
    · cases policy.conventionalRoute name with
      | error fault => exact .fault fault
      | ok route => exact .result (.refl _)
    · exact .result (.refl _)

/-- A single role is single in any order. -/
theorem isElevated_reordered (h : s.Permuted s') (name : Text) :
    policy.isElevated s name = policy.isElevated s' name := by
  have hroles := h ⟨name, policy.roleAnnotationType⟩
  rw [isElevated, isElevated, Bool.eq_iff_iff, decide_eq_true_iff, decide_eq_true_iff]
  constructor
  · intro heq
    rw [heq, List.singleton_perm] at hroles
    exact hroles.symm
  · intro heq
    rwa [heq, List.perm_singleton] at hroles

/-- Names are resolved alike, whatever the order of their tokens. -/
theorem resolveNames_reordered (h : s.Permuted s') (names : List Text) :
    Alike Resolution.Reordered (policy.resolveNames s names) (policy.resolveNames s' names) := by
  induction names with
  | nil => exact .result ⟨.nil, rfl⟩
  | cons name names ih =>
    rw [resolveNames, resolveNames]
    split
    next hexcluded => exact ih
    next hincluded =>
      have hpatterns : Alike List.Perm (policy.patterns s name) (policy.patterns s' name) :=
        patterns_reordered h name
      generalize policy.patterns s name = found, policy.patterns s' name = found' at hpatterns
      -- a fault is the same on both sides; patterns are there on both sides or on neither
      cases hpatterns with
      | fault fault => exact .fault fault
      | @result ps ps' hps =>
        refine ih.map fun r r' hr => ?_
        have hnil : ps = [] ↔ ps' = [] := eq_nil_iff_of_perm hps
        by_cases hempty : ps = []
        · rw [if_pos hempty, if_pos (hnil.mp hempty)]
          exact ⟨hr.mappings, congrArg (name :: ·) hr.skipped⟩
        · rw [if_neg hempty, if_neg (mt hnil.mpr hempty)]
          exact ⟨.cons ⟨rfl, rfl, hps, isElevated_reordered h name⟩ hr.mappings, hr.skipped⟩

/-- Candidates are resolved alike, whatever the order of their tokens. -/
theorem resolve_reordered (h : s.Permuted s') (candidates : NameSet) :
    Alike Resolution.Reordered (policy.resolve s candidates) (policy.resolve s' candidates) :=
  resolveNames_reordered h candidates.toList

/-- The mappings of a resolution have the patterns of their types. -/
theorem patterns_of_mem_mappings {names : List Text} {r : Resolution} {m : Mapping}
    (h : policy.resolveNames s names = .ok r) (hm : m ∈ r.mappings) :
    policy.patterns s m.typeName = .ok m.patterns := by
  induction names generalizing r with
  | nil =>
    obtain rfl := Except.ok.inj h
    exact absurd hm List.not_mem_nil
  | cons name names ih =>
    rw [resolveNames] at h
    split at h
    next hexcluded => exact ih h hm
    next hincluded =>
      split at h
      · simp at h
      next ps hps =>
        obtain ⟨rest, hrest, rfl⟩ := map_eq_ok_iff.mp h
        by_cases hempty : ps = []
        · rw [if_pos hempty] at hm
          exact ih hrest hm
        · rw [if_neg hempty] at hm
          rcases List.mem_cons.mp hm with rfl | hm
          · exact hps
          · exact ih hrest hm

/-- The patterns of a type show the order in which its routes first occur. -/
theorem patterns_eq_iff (h : s.Permuted s') (name : Text) :
    policy.patterns s name = policy.patterns s' name ↔
      withoutRepeats (policy.explicitRoutes s name) =
        withoutRepeats (policy.explicitRoutes s' name) := by
  refine ⟨fun heq => ?_, patterns_eq⟩
  have hroutes : (policy.explicitRoutes s name).Perm (policy.explicitRoutes s' name) := h _
  by_cases hnil : policy.explicitRoutes s name = []
  · rw [hnil, (eq_nil_iff_of_perm hroutes).mp hnil]
  · have hnil' : policy.explicitRoutes s' name ≠ [] := mt (eq_nil_iff_of_perm hroutes).mpr hnil
    simpa only [patterns, ne_eq, hnil, hnil', not_false_eq_true, if_true, Except.ok.injEq]
      using heq

/-- A store with the tokens in another order gives the same resolution exactly when no mapped type
has its routes in another order of first occurrence. -/
theorem resolve_eq_iff (h : s.Permuted s') (candidates : NameSet) :
    policy.resolve s candidates = policy.resolve s' candidates ↔
      ∀ r, policy.resolve s candidates = .ok r → ∀ m ∈ r.mappings,
        withoutRepeats (policy.explicitRoutes s m.typeName) =
          withoutRepeats (policy.explicitRoutes s' m.typeName) := by
  constructor
  · intro heq r hr m hm
    refine (patterns_eq_iff h m.typeName).mp ?_
    rw [patterns_of_mem_mappings hr hm, patterns_of_mem_mappings (heq ▸ hr) hm]
  · intro hroutes
    have halike : Alike Resolution.Reordered (policy.resolve s candidates)
      (policy.resolve s' candidates) := resolve_reordered h candidates
    generalize hs : policy.resolve s candidates = outcome,
      hs' : policy.resolve s' candidates = outcome' at halike
    cases halike with
    | fault fault => rfl
    | @result r r' hr =>
      -- mappings at the same place belong to the same type, so their patterns are in the same order
      have hmappings : r.mappings = r'.mappings := by
        rw [← List.forall₂_eq_eq_eq, List.forall₂_iff_zip]
        refine ⟨hr.mappings.length_eq, fun {m m'} hzip => ?_⟩
        obtain ⟨hm, hm'⟩ := List.of_mem_zip hzip
        have hreordered : m.Reordered m' := (List.forall₂_iff_zip.mp hr.mappings).2 hzip
        have hpatterns := (patterns_eq_iff h m.typeName).mpr (hroutes r hs m hm)
        rw [patterns_of_mem_mappings hs hm, hreordered.typeName,
          patterns_of_mem_mappings hs' hm'] at hpatterns
        exact hreordered.eq_of_patterns (Except.ok.inj hpatterns)
      rw [hr.eq_of_mappings hmappings]

end Policy

end ServletRoutes.Route
