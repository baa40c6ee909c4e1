import ServletRoutes.Text.Basic

/-!
# `ServletRoutes.Route.Mapping`: one handler with its routes

A mapping ties a type to the URL patterns it answers. Documents refer to it by a servlet name,
which is the type name with its dots turned into underscores.
-/

set_option autoImplicit false

namespace ServletRoutes.Route

/-- The name under which a type is declared as a servlet. -/
def servletNameOf (typeName : Text) : Text := Text.replace '.' '_' typeName

/-- One type with the URL patterns that are routed to it. -/
structure Mapping where
  typeName : Text
  servletName : Text
  patterns : List Text
  /-- Only the administrator may use the routes. -/
  elevated : Bool
deriving DecidableEq

end ServletRoutes.Route
