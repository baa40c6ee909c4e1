import ServletRoutes.Proofs.Document.Element
import ServletRoutes.Proofs.Document.ServletName

/-!
# `ServletRoutes.Proofs.Document.Guarding`: which routes a fragment guards

A fragment with constraints has one for each mapped type that asks for the
elevated role and for no other, and the constraint lists the URL patterns that
are routed to the type (`constraints_of_resolve`). The patterns are written in
two loops, one for the routes and one for the constraint; both are read back
here from the text, by `routesIn?` and by `valuesIn?`.

Elements are looked for wherever their tags stand (`elementsIn?`), so no value
forges or hides a constraint. In a fragment without constraints not even the
opening tag occurs.
-/

set_option autoImplicit false

namespace ServletRoutes.Document

open Annotations (Store)
open Route (Mapping Policy Resolution)

variable {policy : Policy} {store : Store} {candidates : NameSet} {r : Resolution}

/-- The routes in a text, each with its servlet name and its URL pattern. -/
def routesIn? (t : Text) : Option (List (Text × Text)) :=
  (elementsIn? "servlet-mapping" t).bind (·.mapM (twoValues? "servlet-name" "url-pattern"))

/-- A route is read as it was written. -/
theorem twoValues?_routeContent (m : Mapping) (pattern : Text) :
    twoValues? "servlet-name" "url-pattern" (routeContent m pattern) =
      some (m.servletName, pattern) :=
  twoValues?_elements (by decide) (by decide) m.servletName pattern

/-- The routes of a fragment are those of the mappings. -/
theorem routesIn?_render (constraints : Bool) (ms : List Mapping) (ending : LineEnding) :
    routesIn? ((Shape.servletMappings constraints).render ms ending) =
      some (ms.flatMap fun m => m.patterns.map fun p => (m.servletName, p)) := by
  have hread (route : Mapping × Text) : twoValues? "servlet-name" "url-pattern"
      (routeContent route.1 route.2) = some (route.1.servletName, route.2) :=
    twoValues?_routeContent route.1 route.2
  -- both lists go through the same pairs of a mapping and a pattern
  have hpairs {α : Type} (f : Mapping × Text → α) :
      (ms.flatMap fun m => m.patterns.map fun p => f (m, p)) =
        (ms.flatMap fun m => m.patterns.map fun p => (m, p)).map f := by
    simp only [List.map_flatMap, List.map_map, Function.comp_def]
  rw [routesIn?, elementsIn?_routes, Option.bind_some,
    hpairs fun route => routeContent route.1 route.2, mapM_map hread]
  exact congrArg some (hpairs fun route => (route.1.servletName, route.2)).symm

/-- A constraint lists the URL patterns of its mapping. -/
theorem patterns_constraintContent (m : Mapping) :
    valuesIn? "url-pattern" (constraintContent m) = some m.patterns := by
  have hpatterns : AddsElements "url-pattern"
      (m.patterns.flatMap fun p => element "url-pattern" (escape p))
      (m.patterns.flatMap fun p => [escape p]) :=
    .flatMap (fun p => .itself_value (by decide) p) m.patterns
  have hcollection : AddsElements "url-pattern"
      (element "web-resource-collection" (element "web-resource-name" (escape m.servletName) ++
        m.patterns.flatMap fun p => element "url-pattern" (escape p)))
      ([] ++ m.patterns.flatMap fun p => [escape p]) :=
    .inside (by decide) (.append (.field (by decide) _) hpatterns)
  have hrole : AddsElements "url-pattern"
      (element "auth-constraint" (element "role-name" guardRole)) [] :=
    .inside (by decide) (.inside (by decide) (.of_notMem (by decide)))
  have hcontent := (hcollection.append hrole).enclosed?_eq
  rw [valuesIn?, elementsIn?, constraintContent, hcontent, Option.map_some]
  simp only [List.nil_append, List.append_nil, List.map_flatMap, List.map_cons, List.map_nil,
    unescape_escape, List.flatMap_singleton']

/-- The mapped types that ask for the elevated role and for no other. -/
def elevatedOf (policy : Policy) (store : Store) (r : Resolution) : List Mapping :=
  r.mappings.filter fun m =>
    store.values ⟨m.typeName, policy.roleAnnotationType⟩ = [policy.elevatedRole]

/-- These are the elevated mappings. -/
theorem filter_elevated (h : policy.resolve store candidates = .ok r) :
    r.mappings.filter (fun m => true && m.elevated) = elevatedOf policy store r := by
  refine List.filter_congr fun m hm => ?_
  rw [Bool.true_and, Bool.eq_iff_iff, decide_eq_true_iff]
  exact ((Policy.parts_of_resolve h).describes m hm).elevated

/-- They are as many as the mapped candidates that ask so. -/
theorem length_elevatedOf (h : policy.resolve store candidates = .ok r) :
    (elevatedOf policy store r).length = (candidates.toList.filter fun name =>
      name ∈ r.mappings.map (·.typeName) ∧
        store.values ⟨name, policy.roleAnnotationType⟩ = [policy.elevatedRole]).length := by
  have hsplit : candidates.toList.filter (fun name => name ∈ r.mappings.map (·.typeName) ∧
        store.values ⟨name, policy.roleAnnotationType⟩ = [policy.elevatedRole]) =
      (candidates.toList.filter fun name => name ∈ r.mappings.map (·.typeName)).filter fun name =>
        store.values ⟨name, policy.roleAnnotationType⟩ = [policy.elevatedRole] := by
    simp only [List.filter_filter, Bool.decide_and, Bool.and_comm]
  rw [hsplit, Policy.filter_mapped h, List.filter_map, List.length_map]
  rfl

/-- A fragment guards the routes of the mapped types with exactly the elevated role. Its constraints
stand in the order of these types, and each lists the URL patterns that are routed to its type. Without
constraints the fragment has no opening tag of one. -/
theorem constraints_of_resolve (h : policy.resolve store candidates = .ok r) (ending : LineEnding) :
    (∃ constraints,
      elementsIn? "security-constraint" ((Shape.servletMappings true).render r.mappings ending) =
        some constraints ∧
      constraints.length = (candidates.toList.filter fun name =>
        name ∈ r.mappings.map (·.typeName) ∧
          store.values ⟨name, policy.roleAnnotationType⟩ = [policy.elevatedRole]).length ∧
      constraints.mapM (valuesIn? "url-pattern") =
        some ((elevatedOf policy store r).map (·.patterns)) ∧
      routesIn? ((Shape.servletMappings true).render r.mappings ending) =
        some (r.mappings.flatMap fun m => m.patterns.map fun p => (m.servletName, p)) ∧
      ∀ m ∈ elevatedOf policy store r, ∀ p ∈ m.patterns,
        ∃ c ∈ constraints, ∃ ps, valuesIn? "url-pattern" c = some ps ∧ p ∈ ps) ∧
    elementsIn? "security-constraint" ((Shape.servletMappings false).render r.mappings ending) =
      some [] ∧
    ¬ openTag "security-constraint" <:+: (Shape.servletMappings false).render r.mappings ending := by
  -- without constraints no element of the name is there, and so no opening tag
  have hnone : elementsIn? "security-constraint"
      ((Shape.servletMappings false).render r.mappings ending) = some [] := by
    rw [elementsIn?_constraints]
    simp
  have habsent : ¬ openTag "security-constraint" <:+:
      (Shape.servletMappings false).render r.mappings ending :=
    (enclosed?_eq_nil_iff (by simp [openTag])).mp hnone
  refine ⟨⟨(elevatedOf policy store r).map constraintContent, ?_, ?_, ?_, ?_, ?_⟩, hnone, habsent⟩
  · rw [elementsIn?_constraints, filter_elevated h]
  · rw [List.length_map, length_elevatedOf h]
  · exact mapM_map patterns_constraintContent (elevatedOf policy store r)
  · exact routesIn?_render true r.mappings ending
  · intro m hm p hp
    exact ⟨_, List.mem_map_of_mem hm, m.patterns, patterns_constraintContent m, hp⟩

/-- A store with a route for each of two types that ask for the elevated role. The route of the first
one is markup, and the second one asks for another role too. -/
def markupStore : Store :=
  ((twoRoutes "a.B" "c.D").append ⟨"a.B".toList, Policy.routeAnnotationType {}⟩
      ["</url-pattern><security-constraint>".toList]).append
    ⟨"a.B".toList, Policy.roleAnnotationType {}⟩ [Policy.elevatedRole {}] |>.append
    ⟨"c.D".toList, Policy.roleAnnotationType {}⟩ [Policy.elevatedRole {}, "User".toList]

/-- Markup in a route neither ends its constraint nor begins another one. -/
theorem constraints_of_resolve_markup :
    ∃ r constraints, Policy.resolve {} markupStore (.ofList ["a.B".toList, "c.D".toList]) = .ok r ∧
      elementsIn? "security-constraint" ((Shape.servletMappings true).render r.mappings .crlf) =
        some constraints ∧
      constraints.length = 1 ∧
      constraints.mapM (valuesIn? "url-pattern") =
        some [["/x".toList, "</url-pattern><security-constraint>".toList]] := by
  have hr : Policy.resolve {} markupStore (.ofList ["a.B".toList, "c.D".toList]) =
      .ok ⟨[⟨"a.B".toList, "a_B".toList,
        ["/x".toList, "</url-pattern><security-constraint>".toList], true⟩,
        oneRoute "c.D" "c_D" "/y"], []⟩ :=
    eq_ok_of_toOption (by decide +kernel)
  obtain ⟨⟨constraints, hconstraints, hlength, hpatterns, -, -⟩, -, -⟩ :=
    constraints_of_resolve hr .crlf
  exact ⟨_, constraints, hr, hconstraints, hlength.trans (by decide +kernel),
    hpatterns.trans (by decide +kernel)⟩

end ServletRoutes.Document
