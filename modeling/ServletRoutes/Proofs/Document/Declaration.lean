import ServletRoutes.Proofs.Document.Reading

/-!
# `ServletRoutes.Proofs.Document.Declaration`: what a fragment declares

The lines of a servlet fragment make up declarations, one for each mapping:
a servlet with its routes, and a constraint where the routes are guarded.
The lines of the other kind of fragment are routes, one for each URL pattern.

Lines and declarations determine each other (`Declaration.ofLines_flatMap`),
and lines are read as they were written, so a fragment tells its mappings
(`declarations?_render`, `properties?_render`). `read_render` puts both kinds
together: two lists of mappings have the same fragment exactly when they
declare the same.
-/

set_option autoImplicit false

namespace ServletRoutes.Document

open Route (Mapping)

/-- What the lines of a servlet fragment say. -/
def servletLines? (fragment : Text) : Option (List ServletLine) :=
  (generatedLines fragment).mapM ServletLine.read?

/-- The URL patterns and the types of the properties in a fragment. -/
def properties? (fragment : Text) : Option (List (Text × Text)) :=
  (generatedLines fragment).mapM property?

/-- What a servlet fragment declares of one type. -/
structure Declaration where
  servletName : Text
  typeName : Text
  patterns : List Text
  /-- A constraint keeps the routes for the administrator. -/
  guarded : Bool
deriving DecidableEq

namespace Declaration

/-- What is declared of a mapping, with or without constraints. -/
def ofMapping (constraints : Bool) (m : Mapping) : Declaration :=
  ⟨m.servletName, m.typeName, m.patterns, constraints && m.elevated⟩

/-- The lines of a declaration. -/
def lines (d : Declaration) : List ServletLine :=
  .servlet d.servletName d.typeName (d.patterns.map fun p => (d.servletName, p)) ::
    if d.guarded then [.constraint d.servletName d.patterns] else []

/-- The declarations that lines make up. A constraint belongs to the servlet before it. -/
def ofLines : List ServletLine → List Declaration
  | [] => []
  | .servlet servletName typeName routes :: .constraint _ _ :: lines =>
    ⟨servletName, typeName, routes.map (·.2), true⟩ :: ofLines lines
  | .servlet servletName typeName routes :: lines =>
    ⟨servletName, typeName, routes.map (·.2), false⟩ :: ofLines lines
  | .constraint _ _ :: lines => ofLines lines

/-- The lines of a mapping are those of its declaration. -/
theorem linesOf_eq (constraints : Bool) (m : Mapping) :
    (Shape.servletMappings constraints).linesOf m =
      (ofMapping constraints m).lines.map ServletLine.text := by
  have hroutes : m.patterns.flatMap (mappingElement m) =
      (m.patterns.map fun p => (m.servletName, p)).flatMap fun route =>
        element "servlet-mapping" (element "servlet-name" (escape route.1) ++
          element "url-pattern" (escape route.2)) := by
    rw [List.flatMap_map]
    rfl
  cases hguarded : constraints && m.elevated <;>
    simp only [Shape.linesOf, lines, ofMapping, hguarded, List.map_cons, hroutes] <;> rfl

/-- Declarations are told by their lines: a servlet without a constraint is followed by the next
servlet or by nothing. -/
theorem ofLines_flatMap (ds : List Declaration) : ofLines (ds.flatMap lines) = ds := by
  induction ds with
  | nil => rfl
  | cons d ds ih =>
    have hpatterns : (d.patterns.map fun p => (d.servletName, p)).map (·.2) = d.patterns := by
      rw [List.map_map]
      exact List.map_id d.patterns
    obtain ⟨servletName, typeName, patterns, guarded⟩ := d
    cases guarded with
    | true =>
      simp only [List.flatMap_cons, lines, if_true, List.cons_append, List.nil_append, ofLines, ih,
        hpatterns]
    | false =>
      cases ds with
      | nil => simp [lines, ofLines, hpatterns]
      | cons d' ds =>
        rw [List.flatMap_cons, lines, List.cons_append] at ih
        simp only [List.flatMap_cons, lines, Bool.false_eq_true, if_false, List.cons_append,
          List.nil_append, ofLines, hpatterns]
        exact congrArg _ ih

end Declaration

/-- What a servlet fragment declares. -/
def declarations? (fragment : Text) : Option (List Declaration) :=
  (servletLines? fragment).map Declaration.ofLines

/-- The URL patterns of all mappings, each with its type. -/
def routesOf (ms : List Mapping) : List (Text × Text) :=
  ms.flatMap fun m => m.patterns.map fun p => (p, m.typeName)

/-- The lines of a servlet fragment are those of its declarations. -/
theorem flatMap_linesOf_servletMappings (constraints : Bool) (ms : List Mapping) :
    ms.flatMap (Shape.servletMappings constraints).linesOf =
      ((ms.map (Declaration.ofMapping constraints)).flatMap Declaration.lines).map
        ServletLine.text := by
  rw [List.flatMap_map, List.map_flatMap]
  exact congrArg (ms.flatMap ·) (funext (Declaration.linesOf_eq constraints))

/-- The lines of a fragment of properties are those of its routes. -/
theorem flatMap_linesOf_systemProperties (ms : List Mapping) :
    ms.flatMap Shape.systemProperties.linesOf = (routesOf ms).map propertyText := by
  rw [routesOf, List.map_flatMap]
  refine congrArg (ms.flatMap ·) (funext fun m => ?_)
  rw [List.map_map, Shape.linesOf]
  exact congrArg (m.patterns.map ·) (funext (propertyElement_eq_propertyText m))

/-- The lines of a servlet fragment are read as they were written. -/
theorem servletLines?_render (constraints : Bool) (ms : List Mapping) (ending : LineEnding) :
    servletLines? ((Shape.servletMappings constraints).render ms ending) =
      some ((ms.map (Declaration.ofMapping constraints)).flatMap Declaration.lines) := by
  rw [servletLines?, generatedLines_render, flatMap_linesOf_servletMappings,
    mapM_map ServletLine.read?_text, List.map_id']

/-- The declarations of a fragment are those of its mappings. -/
theorem declarations?_render (constraints : Bool) (ms : List Mapping) (ending : LineEnding) :
    declarations? ((Shape.servletMappings constraints).render ms ending) =
      some (ms.map (Declaration.ofMapping constraints)) := by
  rw [declarations?, servletLines?_render, Option.map_some, Declaration.ofLines_flatMap]

/-- The properties of a fragment are the routes of its mappings. -/
theorem properties?_render (ms : List Mapping) (ending : LineEnding) :
    properties? (Shape.systemProperties.render ms ending) = some (routesOf ms) := by
  rw [properties?, generatedLines_render, flatMap_linesOf_systemProperties,
    mapM_map property?_propertyText, List.map_id']

/-- A fragment tells its mappings. From its text alone the declarations are read in order, each with
the names, the URL patterns and the guard that was asked for, or the routes in order. So two lists of
mappings have the same fragment exactly when they declare the same. -/
theorem read_render (ending : LineEnding) :
    Function.LeftInverse unescape escape ∧
      (∀ constraints ms, declarations? ((Shape.servletMappings constraints).render ms ending) =
        some (ms.map (Declaration.ofMapping constraints))) ∧
      (∀ ms, properties? (Shape.systemProperties.render ms ending) = some (routesOf ms)) ∧
      (∀ constraints ms ms', (Shape.servletMappings constraints).render ms ending =
          (Shape.servletMappings constraints).render ms' ending ↔
        ms.map (Declaration.ofMapping constraints) = ms'.map (Declaration.ofMapping constraints)) ∧
      ∀ ms ms', Shape.systemProperties.render ms ending = Shape.systemProperties.render ms' ending ↔
        routesOf ms = routesOf ms' := by
  refine ⟨unescape_escape, fun constraints ms => declarations?_render constraints ms ending,
    fun ms => properties?_render ms ending, fun constraints ms ms' => ⟨fun h => ?_, fun h => ?_⟩,
    fun ms ms' => ⟨fun h => ?_, fun h => ?_⟩⟩
  -- equal texts are read alike, and equal readings are written alike
  · have hread := congrArg declarations? h
    rw [declarations?_render, declarations?_render] at hread
    exact Option.some.inj hread
  · rw [Shape.render, Shape.render, flatMap_linesOf_servletMappings,
      flatMap_linesOf_servletMappings, h]
  · have hread := congrArg properties? h
    rw [properties?_render, properties?_render] at hread
    exact Option.some.inj hread
  · rw [Shape.render, Shape.render, flatMap_linesOf_systemProperties,
      flatMap_linesOf_systemProperties, h]

end ServletRoutes.Document
