import Mathlib.Data.List.Forall2
import ServletRoutes.Proofs.Document.Declaration
import ServletRoutes.Proofs.Route.Reordering

/-!
# `ServletRoutes.Proofs.Document.Rendering`: what a fragment shows of its mappings

A fragment can be read back, and what it declares includes the order in which
the URL patterns of a mapping stand. Hence two lists of mappings that differ at
most in the order of their patterns have the same fragment only if they are
equal (`Shape.render_eq_iff`). Whatever the mappings are, fragments of the two
kinds differ (`Shape.render_servletMappings_ne`).
-/

set_option autoImplicit false

namespace ServletRoutes.Document

open Route (Mapping)

/-- A line ending ends in its only line feed. -/
theorem LineEnding.text_eq_append (ending : LineEnding) :
    ∃ back, '\n' ∉ back ∧ ending.text = back ++ ['\n'] := by
  cases ending with
  | lf => exact ⟨[], by simp, rfl⟩
  | crlf => exact ⟨['\r'], by decide, rfl⟩

namespace Shape

variable {shape : Shape} {m m' : Mapping} {ms ms' : List Mapping} {ending : LineEnding}

/-- The declarations of mappings show the order of their patterns. -/
theorem eq_of_declarations (constraints : Bool) (h : List.Forall₂ Mapping.Reordered ms ms')
    (heq : ms.map (Declaration.ofMapping constraints) = ms'.map (Declaration.ofMapping constraints)) :
    ms = ms' := by
  induction h with
  | nil => rfl
  | cons hm _ ih =>
    rw [List.map_cons, List.map_cons] at heq
    obtain ⟨hfirst, hrest⟩ := List.cons.inj heq
    have hpatterns := congrArg Declaration.patterns hfirst
    rw [hm.eq_of_patterns hpatterns, ih hrest]

/-- The routes of mappings show the order of their patterns. -/
theorem eq_of_routesOf (h : List.Forall₂ Mapping.Reordered ms ms') (heq : routesOf ms = routesOf ms') :
    ms = ms' := by
  induction h with
  | nil => rfl
  | @cons m m' ms ms' hm _ ih =>
    -- both mappings have equally many patterns, so their routes end at the same place
    have hlength : (m.patterns.map fun p => (p, m.typeName)).length =
        (m'.patterns.map fun p => (p, m'.typeName)).length := by
      rw [List.length_map, List.length_map, hm.patterns.length_eq]
    obtain ⟨hfirst, hrest⟩ := List.append_inj heq hlength
    have hpatterns : m.patterns = m'.patterns := by
      have hfronts := congrArg (List.map Prod.fst) hfirst
      simpa [Function.comp_def] using hfronts
    rw [hm.eq_of_patterns hpatterns, ih hrest]

/-- Mappings that differ at most in the order of their patterns have the same fragment only if they
are the same. -/
theorem render_eq_iff (h : List.Forall₂ Mapping.Reordered ms ms') :
    shape.render ms ending = shape.render ms' ending ↔ ms = ms' := by
  refine ⟨fun heq => ?_, fun heq => by rw [heq]⟩
  cases shape with
  | servletMappings constraints =>
    have hread := congrArg declarations? heq
    rw [declarations?_render, declarations?_render] at hread
    exact eq_of_declarations constraints h (Option.some.inj hread)
  | systemProperties =>
    have hread := congrArg properties? heq
    rw [properties?_render, properties?_render] at hread
    exact eq_of_routesOf h (Option.some.inj hread)

/-- A fragment ends in a line feed and the indentation of its shape. -/
theorem render_eq_append (shape : Shape) (ms : List Mapping) (ending : LineEnding) :
    ∃ front, shape.render ms ending = front ++ '\n' :: shape.indent := by
  obtain ⟨back, -, hending⟩ := ending.text_eq_append
  rw [render]
  -- the line feed is that of the last line, or of the first line ending
  rcases List.eq_nil_or_concat (ms.flatMap shape.linesOf) with hlines | ⟨lines, line, hlines⟩
  · refine ⟨back, ?_⟩
    rw [hlines, hending]
    simp
  · refine ⟨ending.text ++ (lines.flatMap fun line => shape.indent ++ line ++ ending.text) ++
      (shape.indent ++ line ++ back), ?_⟩
    rw [hlines]
    simp [hending]

/-- Fragments of the two kinds always differ, in their last indentation. -/
theorem render_servletMappings_ne (constraints : Bool) (ms ms' : List Mapping)
    (ending ending' : LineEnding) :
    (servletMappings constraints).render ms ending ≠ systemProperties.render ms' ending' := by
  obtain ⟨front, hfront⟩ := (servletMappings constraints).render_eq_append ms ending
  obtain ⟨front', hfront'⟩ := systemProperties.render_eq_append ms' ending'
  have hindent : systemProperties.indent = List.replicate 4 ' ' ++ List.replicate 4 ' ' := rfl
  intro h
  -- without the indentation of the first one, one fragment ends in a line feed and one in a blank
  rw [hfront, hfront', hindent, indent, List.append_cons, List.append_cons front',
    ← List.append_assoc, List.append_cancel_right_eq] at h
  have hlast := congrArg List.getLast? h
  simp at hlast

end Shape

end ServletRoutes.Document
