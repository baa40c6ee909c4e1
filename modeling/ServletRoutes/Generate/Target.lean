import ServletRoutes.Config.Basic
import ServletRoutes.Document.Fragment
import ServletRoutes.Document.Layout

/-!
# `ServletRoutes.Generate.Target`: which documents are generated from what

A target is a document with the base type whose subtypes it declares and the shape of its
region. Every handler is a servlet too, so the usual targets take each total of a run from one of
them only.
-/

set_option autoImplicit false

namespace ServletRoutes.Generate

/-- The totals of a run to which a target contributes. -/
structure Tally where
  /-- URL patterns. -/
  mappings : Bool := false
  /-- Candidates without a route. -/
  skipped : Bool := false
  /-- URL patterns of elevated mappings. -/
  elevated : Bool := false
deriving DecidableEq

/-- A document to bring up to date. -/
structure Target where
  /-- The type whose subtypes are declared. -/
  baseType : Text
  path : Text
  layout : Document.Layout
  shape : Document.Shape
  tally : Tally
deriving DecidableEq

namespace Target

/-- The servlet descriptor and the application descriptor of a web application. -/
def defaults (config : Config) (webapp : Text) : List Target := [
  { baseType := config.servletBase
    path := config.webXmlPath webapp
    layout := .webApp
    shape := .servletMappings config.securityConstraints
    tally := { mappings := true, skipped := true } },
  { baseType := config.handlerBase
    path := config.appengineWebXmlPath webapp
    layout := .appEngineWebApp
    shape := .systemProperties
    tally := { elevated := true } }]

end Target

end ServletRoutes.Generate
