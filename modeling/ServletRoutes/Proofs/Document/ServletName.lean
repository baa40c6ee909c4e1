import Mathlib.Data.List.Forall2
import ServletRoutes.Proofs.Document.Declaration
import ServletRoutes.Proofs.Route.Partition

/-!
# `ServletRoutes.Proofs.Document.ServletName`: the type that a route leads to

Who reads a servlet fragment joins its servlets and its routes on the servlet
name. The name is the type name with underscores for dots, so two types have
one name exactly when they are `Confusable`: where they differ, one has a dot
and the other an underscore (`servletNameOf_eq_iff`).

`joined_of_resolve` says what the join gives for the fragment of a resolution.
Every mapped type is declared once. The names are declared once each exactly
when no two mapped types are confusable, and then the join gives the routes of
the resolution and no others. A type gets the patterns of another one exactly
when the two are confusable (`joined_of_resolve_confused`).
-/

set_option autoImplicit false

namespace ServletRoutes.Document

open Annotations (Store)
open Route (Mapping Policy Resolution servletNameOf)

variable {s t : Text} {m : Mapping} {ms : List Mapping} {policy : Policy} {store : Store}
  {candidates : NameSet} {r : Resolution}

/-! ### Names -/

/-- Two names that differ at most in that one has a dot where the other has an underscore. -/
def Confusable (s t : Text) : Prop :=
  List.Forall₂ (fun a b => a = b ∨ a = '.' ∧ b = '_' ∨ a = '_' ∧ b = '.') s t

instance : Decidable (Confusable s t) := inferInstanceAs (Decidable (List.Forall₂ _ s t))

/-- Types have the same servlet name exactly when they are confusable. -/
theorem servletNameOf_eq_iff : servletNameOf s = servletNameOf t ↔ Confusable s t := by
  induction s generalizing t with
  | nil => cases t <;> simp [servletNameOf, Text.replace, Confusable]
  | cons a s ih =>
    cases t with
    | nil => simp [servletNameOf, Text.replace, Confusable]
    | cons b t =>
      have hchar : (if a = '.' then '_' else a) = (if b = '.' then '_' else b) ↔
          a = b ∨ a = '.' ∧ b = '_' ∨ a = '_' ∧ b = '.' := by
        by_cases ha : a = '.' <;> by_cases hb : b = '.' <;> simp [ha, hb, eq_comm]
      rw [Confusable, List.forall₂_cons, ← hchar, ← Confusable, ← ih]
      exact List.cons_eq_cons

/-- No two of the mapped types are confusable. -/
def Unambiguous (ms : List Mapping) : Prop :=
  ∀ m ∈ ms, ∀ m' ∈ ms, Confusable m.typeName m'.typeName → m.typeName = m'.typeName

/-! ### Joining -/

namespace ServletLine

/-- The servlets of a line, by servlet name and type. -/
def servlets : ServletLine → List (Text × Text)
  | servlet servletName typeName _ => [(servletName, typeName)]
  | constraint _ _ => []

/-- The routes of a line, by servlet name and URL pattern. -/
def routes : ServletLine → List (Text × Text)
  | servlet _ _ routes => routes
  | constraint _ _ => []

/-- The URL patterns of lines with their types, joined on the servlet name. -/
def joined (lines : List ServletLine) : List (Text × Text) :=
  (lines.flatMap servlets).flatMap fun servlet =>
    ((lines.flatMap routes).filter fun route => route.1 = servlet.1).map fun route =>
      (route.2, servlet.2)

/-- A pattern is joined to a type by a name that both have. -/
theorem mem_joined_iff {lines : List ServletLine} {pattern typeName : Text} :
    (pattern, typeName) ∈ joined lines ↔
      ∃ name, (name, typeName) ∈ lines.flatMap servlets ∧ (name, pattern) ∈ lines.flatMap routes := by
  simp only [joined, List.mem_flatMap (f := fun servlet : Text × Text => _), List.mem_map,
    List.mem_filter, decide_eq_true_iff, Prod.mk.injEq, Prod.exists]
  constructor
  · rintro ⟨name, typeName, hservlet, name', pattern, ⟨hroute, rfl⟩, rfl, rfl⟩
    exact ⟨_, hservlet, hroute⟩
  · rintro ⟨name, hservlet, hroute⟩
    exact ⟨name, typeName, hservlet, name, pattern, ⟨hroute, rfl⟩, rfl, rfl⟩

end ServletLine

/-! ### Fragments of resolutions -/

/-- A type is declared as a servlet once, under its servlet name. -/
theorem flatMap_servlets (constraints : Bool) (ms : List Mapping) :
    ((ms.map (Declaration.ofMapping constraints)).flatMap Declaration.lines).flatMap
        ServletLine.servlets = ms.map fun m => (m.servletName, m.typeName) := by
  induction ms with
  | nil => rfl
  | cons m ms ih =>
    rw [List.map_cons, List.flatMap_cons, List.flatMap_append, ih, List.map_cons]
    cases hguarded : constraints && m.elevated <;>
      simp [Declaration.lines, Declaration.ofMapping, ServletLine.servlets, hguarded]

/-- The routes of a type are declared once, under its servlet name. -/
theorem flatMap_routes (constraints : Bool) (ms : List Mapping) :
    ((ms.map (Declaration.ofMapping constraints)).flatMap Declaration.lines).flatMap
        ServletLine.routes = ms.flatMap fun m => m.patterns.map fun p => (m.servletName, p) := by
  induction ms with
  | nil => rfl
  | cons m ms ih =>
    rw [List.map_cons, List.flatMap_cons, List.flatMap_append, ih, List.flatMap_cons]
    cases hguarded : constraints && m.elevated <;>
      simp [Declaration.lines, Declaration.ofMapping, ServletLine.routes, hguarded]

/-- Mapped types stand once each, under the names that are made of them. -/
theorem mappings_of_resolve (h : policy.resolve store candidates = .ok r) :
    (r.mappings.map (·.typeName)).Nodup ∧
      ∀ m ∈ r.mappings, m.servletName = servletNameOf m.typeName := by
  have hparts := Policy.parts_of_resolve h
  refine ⟨?_, fun m hm => (hparts.describes m hm).servletName⟩
  rw [hparts.mapped]
  exact (policy.considered candidates).nodup_toList.filter _

/-- Of the items of a list only the one with a given key counts, if the keys differ. -/
theorem flatMap_filter_key {ms : List Mapping} (hnodup : (ms.map (·.servletName)).Nodup)
    (hm : m ∈ ms) :
    ((ms.flatMap fun m => m.patterns.map fun p => (m.servletName, p)).filter
      fun route => route.1 = m.servletName) = m.patterns.map fun p => (m.servletName, p) := by
  induction ms with
  | nil => simp at hm
  | cons m' ms ih =>
    rw [List.map_cons, List.nodup_cons] at hnodup
    rw [List.flatMap_cons, List.filter_append]
    -- the mapping with the name comes first, or later, and all others have other names
    rcases List.mem_cons.mp hm with rfl | hm
    · have hothers : (ms.flatMap fun m => m.patterns.map fun p => (m.servletName, p)).filter
          (fun route => route.1 = m.servletName) = [] := by
        rw [List.filter_eq_nil_iff]
        intro route hroute
        obtain ⟨m', hm', hroute⟩ := List.mem_flatMap.mp hroute
        obtain ⟨p, -, rfl⟩ := List.mem_map.mp hroute
        have hne : m'.servletName ≠ m.servletName := fun heq =>
          hnodup.1 (heq ▸ List.mem_map_of_mem hm')
        simpa using hne
      rw [hothers, List.append_nil, List.filter_eq_self.mpr (by simp)]
    · have hne : m'.servletName ≠ m.servletName := fun heq =>
        hnodup.1 (heq ▸ List.mem_map_of_mem hm)
      rw [ih hnodup.2 hm, List.filter_eq_nil_iff.mpr (by simp [hne]), List.nil_append]

/-- Where the servlet names differ, joining gives the routes of the mappings. -/
theorem joined_eq_routesOf (constraints : Bool) {ms : List Mapping}
    (hnodup : (ms.map (·.servletName)).Nodup) :
    ServletLine.joined ((ms.map (Declaration.ofMapping constraints)).flatMap Declaration.lines) =
      routesOf ms := by
  rw [ServletLine.joined, flatMap_servlets, flatMap_routes, List.flatMap_map, routesOf]
  refine List.flatMap_congr fun m hm => ?_
  rw [flatMap_filter_key hnodup hm, List.map_map]
  rfl

/-- The pattern of one type is joined to another when the two have one servlet name. -/
theorem mem_joined_lines_iff (constraints : Bool) {ms : List Mapping}
    (hname : ∀ m ∈ ms, m.servletName = servletNameOf m.typeName) (pattern typeName : Text) :
    (pattern, typeName) ∈ ServletLine.joined
        ((ms.map (Declaration.ofMapping constraints)).flatMap Declaration.lines) ↔
      ∃ m ∈ ms, m.typeName = typeName ∧
        ∃ m' ∈ ms, Confusable typeName m'.typeName ∧ pattern ∈ m'.patterns := by
  rw [ServletLine.mem_joined_iff, flatMap_servlets, flatMap_routes]
  simp only [List.mem_map, List.mem_flatMap, Prod.mk.injEq]
  constructor
  · rintro ⟨name, ⟨m, hm, hservlet, rfl⟩, m', hm', p, hp, hroute, rfl⟩
    refine ⟨m, hm, rfl, m', hm', servletNameOf_eq_iff.mp ?_, hp⟩
    rw [← hname m hm, ← hname m' hm', hservlet, hroute]
  · rintro ⟨m, hm, rfl, m', hm', hconfusable, hp⟩
    refine ⟨m.servletName, ⟨m, hm, rfl, rfl⟩, m', hm', pattern, hp, ?_, rfl⟩
    rw [hname m hm, hname m' hm', servletNameOf_eq_iff.mpr hconfusable]

/-- Joining the servlets and the routes in the fragment of a resolution. Every mapped type is declared
once. The servlet names differ exactly when no two mapped types are confusable, and then the join gives
the routes of the resolution. A pattern is joined to all types that are confusable with its own, so no
type gets a pattern of another one exactly when confusable types have the same patterns. -/
theorem joined_of_resolve (h : policy.resolve store candidates = .ok r) (constraints : Bool)
    (ending : LineEnding) :
    ∃ lines,
      servletLines? ((Shape.servletMappings constraints).render r.mappings ending) = some lines ∧
      lines.flatMap ServletLine.servlets =
        r.mappings.map (fun m => (servletNameOf m.typeName, m.typeName)) ∧
      (r.mappings.map (·.typeName)).Nodup ∧
      (((lines.flatMap ServletLine.servlets).map (·.1)).Nodup ↔ Unambiguous r.mappings) ∧
      (Unambiguous r.mappings → ServletLine.joined lines = routesOf r.mappings) ∧
      (∀ pattern typeName, (pattern, typeName) ∈ ServletLine.joined lines ↔
        ∃ m ∈ r.mappings, m.typeName = typeName ∧
          ∃ m' ∈ r.mappings, Confusable typeName m'.typeName ∧ pattern ∈ m'.patterns) ∧
      ((∀ route, route ∈ ServletLine.joined lines ↔ route ∈ routesOf r.mappings) ↔
        ∀ m ∈ r.mappings, ∀ m' ∈ r.mappings, Confusable m.typeName m'.typeName →
          ∀ p ∈ m'.patterns, p ∈ m.patterns) := by
  obtain ⟨hnodup, hname⟩ := mappings_of_resolve h
  have hservlets : r.mappings.map (fun m => (m.servletName, m.typeName)) =
      r.mappings.map fun m => (servletNameOf m.typeName, m.typeName) :=
    List.map_congr_left fun m hm => by rw [hname m hm]
  -- the names are distinct exactly when no two types are confusable, as the types are distinct
  have hnames : (r.mappings.map (·.servletName)).Nodup ↔ Unambiguous r.mappings := by
    have heq : r.mappings.map (·.servletName) =
        (r.mappings.map (·.typeName)).map servletNameOf := by
      rw [List.map_map]
      exact List.map_congr_left hname
    rw [heq, List.nodup_map_iff_inj_on hnodup]
    simp only [List.forall_mem_map, servletNameOf_eq_iff]
    rfl
  have hmem := mem_joined_lines_iff constraints hname
  refine ⟨_, servletLines?_render constraints r.mappings ending, ?_, hnodup, ?_, fun hapart => ?_,
    hmem, ⟨fun hroutes m hm m' hm' hconfusable p hp => ?_, fun hsame => ?_⟩⟩
  · rw [flatMap_servlets, hservlets]
  · rw [flatMap_servlets, List.map_map]
    exact hnames
  · exact joined_eq_routesOf constraints (hnames.mpr hapart)
  · -- the pattern is joined to the first type, which has one mapping only
    have hroute : (p, m.typeName) ∈ routesOf r.mappings :=
      (hroutes _).mp ((hmem _ _).mpr ⟨m, hm, rfl, m', hm', hconfusable, hp⟩)
    obtain ⟨own, hown, hroute⟩ := List.mem_flatMap.mp hroute
    obtain ⟨q, hq, heq⟩ := List.mem_map.mp hroute
    obtain ⟨rfl, htype⟩ := Prod.mk.inj heq
    rwa [List.inj_on_of_nodup_map hnodup hown hm htype] at hq
  -- what is joined to a type through another one is a route of its own
  · rintro ⟨p, typeName⟩
    rw [hmem, routesOf, List.mem_flatMap]
    constructor
    · rintro ⟨m, hm, rfl, m', hm', hconfusable, hp⟩
      exact ⟨m, hm, List.mem_map_of_mem (hsame m hm m' hm' hconfusable p hp)⟩
    · rintro ⟨m, hm, hroute⟩
      obtain ⟨q, hq, heq⟩ := List.mem_map.mp hroute
      obtain ⟨rfl, rfl⟩ := Prod.mk.inj heq
      exact ⟨m, hm, rfl, m, hm, servletNameOf_eq_iff.mp rfl, hq⟩

/-- A store with a route for each of two types. -/
def twoRoutes (first second : String) : Store :=
  (Store.empty.append ⟨first.toList, Policy.routeAnnotationType {}⟩ ["/x".toList]).append
    ⟨second.toList, Policy.routeAnnotationType {}⟩ ["/y".toList]

/-- The mapping of a type with one route. -/
def oneRoute (typeName servletName pattern : String) : Mapping :=
  ⟨typeName.toList, servletName.toList, [pattern.toList], false⟩

/-- Underscores alone make no two types confusable. -/
theorem joined_of_resolve_apart :
    ∃ r, Policy.resolve {} (twoRoutes "a.b_c" "a_b.d") (.ofList ["a.b_c".toList, "a_b.d".toList]) =
        .ok r ∧
      Unambiguous r.mappings ∧
      ∃ lines, servletLines? ((Shape.servletMappings true).render r.mappings .lf) = some lines ∧
        lines.flatMap ServletLine.servlets =
          [("a_b_c".toList, "a.b_c".toList), ("a_b_d".toList, "a_b.d".toList)] ∧
        ServletLine.joined lines =
          [("/x".toList, "a.b_c".toList), ("/y".toList, "a_b.d".toList)] := by
  have hr : Policy.resolve {} (twoRoutes "a.b_c" "a_b.d")
      (.ofList ["a.b_c".toList, "a_b.d".toList]) =
        .ok ⟨[oneRoute "a.b_c" "a_b_c" "/x", oneRoute "a_b.d" "a_b_d" "/y"], []⟩ :=
    eq_ok_of_toOption (by decide +kernel)
  have hunambiguous : Unambiguous [oneRoute "a.b_c" "a_b_c" "/x", oneRoute "a_b.d" "a_b_d" "/y"] := by
    unfold Unambiguous
    decide +kernel
  obtain ⟨lines, hlines, hservlets, -, -, hjoined, -, -⟩ := joined_of_resolve hr true .lf
  exact ⟨_, hr, hunambiguous, lines, hlines, hservlets.trans (by decide +kernel),
    (hjoined hunambiguous).trans (by decide +kernel)⟩

/-- Two types can have one servlet name, which then is declared twice, and the route of the one leads
to the other too. -/
theorem joined_of_resolve_confused :
    ∃ r lines,
      Policy.resolve {} (twoRoutes "a.b_c" "a_b.c") (.ofList ["a.b_c".toList, "a_b.c".toList]) =
        .ok r ∧
      r.mappings.map (fun m => (m.servletName, m.typeName)) =
        [("a_b_c".toList, "a.b_c".toList), ("a_b_c".toList, "a_b.c".toList)] ∧
      servletLines? ((Shape.servletMappings false).render r.mappings .lf) = some lines ∧
      ¬ ((lines.flatMap ServletLine.servlets).map (·.1)).Nodup ∧
      ("/y".toList, "a.b_c".toList) ∉ routesOf r.mappings ∧
      ("/y".toList, "a.b_c".toList) ∈ ServletLine.joined lines := by
  have hr : Policy.resolve {} (twoRoutes "a.b_c" "a_b.c")
      (.ofList ["a.b_c".toList, "a_b.c".toList]) =
        .ok ⟨[oneRoute "a.b_c" "a_b_c" "/x", oneRoute "a_b.c" "a_b_c" "/y"], []⟩ :=
    eq_ok_of_toOption (by decide +kernel)
  exact ⟨_, _, hr, by decide +kernel, servletLines?_render false _ .lf, by decide +kernel,
    by decide +kernel, by decide +kernel⟩

end ServletRoutes.Document
