import ServletRoutes.Route.Mapping
import ServletRoutes.Document.LineEnding
import ServletRoutes.Document.Escape

/-!
# `ServletRoutes.Document.Fragment`: what a generated region says

A fragment is the text between the two markers of a region: a line ending, one line per
declaration, and the indentation of the end marker. The servlet descriptor declares each mapping
as a servlet with its URL patterns, and on request guards the elevated ones; the application
descriptor sets one property per URL pattern.
-/

set_option autoImplicit false

namespace ServletRoutes.Document

open Route (Mapping)

/-- An element with the given content. -/
def element (tag : String) (content : Text) : Text :=
  '<' :: tag.toList ++ '>' :: content ++ "</".toList ++ tag.toList ++ ['>']

/-- The declaration of a servlet. -/
def servletElement (m : Mapping) : Text :=
  element "servlet" (element "servlet-name" (escape m.servletName) ++
    element "servlet-class" (escape m.typeName))

/-- The route from one URL pattern to a servlet. -/
def mappingElement (m : Mapping) (pattern : Text) : Text :=
  element "servlet-mapping" (element "servlet-name" (escape m.servletName) ++
    element "url-pattern" (escape pattern))

/-- The role that a guarded route asks for. -/
def guardRole : Text := "admin".toList

/-- The constraint that keeps the routes of a servlet for the administrator. -/
def constraintElement (m : Mapping) : Text :=
  element "security-constraint"
    (element "web-resource-collection"
        (element "web-resource-name" (escape m.servletName) ++
          m.patterns.flatMap fun p => element "url-pattern" (escape p)) ++
      element "auth-constraint" (element "role-name" guardRole))

/-- The property that tells the application server who answers a URL pattern. -/
def propertyElement (m : Mapping) (pattern : Text) : Text :=
  "<property name=\"url:".toList ++ escape pattern ++ "\" value=\"".toList ++
    escape m.typeName ++ "\"/>".toList

/-- The kinds of generated regions. -/
inductive Shape
  /-- Servlet declarations, with or without a constraint for each elevated mapping. -/
  | servletMappings (constraints : Bool)
  /-- One system property per URL pattern. -/
  | systemProperties
deriving DecidableEq

namespace Shape

/-- The name of the shape in messages and reports. -/
def name : Shape → Text
  | servletMappings _ => "servlet-mappings".toList
  | systemProperties => "system-properties".toList

/-- The indentation of the generated lines and of the end marker. -/
def indent : Shape → Text
  | servletMappings _ => List.replicate 4 ' '
  | systemProperties => List.replicate 8 ' '

/-- The generated lines of one mapping, without indentation. -/
def linesOf : Shape → Mapping → List Text
  | servletMappings constraints, m =>
    (servletElement m ++ m.patterns.flatMap (mappingElement m)) ::
      if constraints && m.elevated then [constraintElement m] else []
  | systemProperties, m => m.patterns.map (propertyElement m)

/-- The fragment that declares the mappings. -/
def render (shape : Shape) (mappings : List Mapping) (ending : LineEnding) : Text :=
  ending.text ++
    ((mappings.flatMap shape.linesOf).flatMap fun line => shape.indent ++ line ++ ending.text) ++
    shape.indent

end Shape

end ServletRoutes.Document
