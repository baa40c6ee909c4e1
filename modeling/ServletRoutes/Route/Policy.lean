import ServletRoutes.Text.NameSet

/-!
# `ServletRoutes.Route.Policy`: how routes are found

The policy names the annotations that carry routes and roles, the role that only the
administrator has, and the convention for types without explicit routes.
-/

set_option autoImplicit false

namespace ServletRoutes.Route

/-- Where the routes and the access rights of a type come from. -/
structure Policy where
  /-- The annotation whose tokens are the URL patterns of a type. -/
  routeAnnotationType : Text := "ro.appenigne.web.framework.annotation.UrlPattern".toList
  /-- The annotation whose tokens are the roles that a type asks for. -/
  roleAnnotationType : Text := "ro.appenigne.web.framework.annotation.RequiredType".toList
  /-- The role that makes a mapping an elevated one. -/
  elevatedRole : Text := "SuperAdministrator".toList
  /-- The part of a type name after which its conventional route begins. -/
  markerSegment : Text := "controller".toList
  /-- The beginning of every conventional route. -/
  routeRoot : Text := "/do/".toList
  /-- Types that are left out altogether. -/
  excluded : NameSet := .empty

end ServletRoutes.Route
