import ServletRoutes.Route.Policy
import ServletRoutes.FileTree.Path
import ServletRoutes.Scan

/-!
# `ServletRoutes.Config.Basic`: the configuration of a run

Every setting has a default. From a configuration follow the options of the scan, the policy for
routes, and the places of the two descriptors.
-/

set_option autoImplicit false

namespace ServletRoutes

/-- The settings of a run. -/
structure Config where
  /-- The filter expression. -/
  includeExclude : Text := Filter.defaultExpression
  /-- The base type of the handlers that the application descriptor lists. -/
  handlerBase : Text := "ro.appenigne.web.framework.servlet.AbstractIController".toList
  /-- The base type of the servlets that the servlet descriptor lists. -/
  servletBase : Text := "javax.servlet.http.HttpServlet".toList
  routeAnnotationType : Text := ({} : Route.Policy).routeAnnotationType
  roleAnnotationType : Text := ({} : Route.Policy).roleAnnotationType
  elevatedRole : Text := ({} : Route.Policy).elevatedRole
  markerSegment : Text := ({} : Route.Policy).markerSegment
  routeRoot : Text := ({} : Route.Policy).routeRoot
  excludeClasses : List Text := []
  parallel : Bool := false
  threads : Option Nat := none
  scanners : List ScannerKind := [.subtypes, .annotations]
  /-- The path of the servlet descriptor, if it is not the usual one. -/
  webXml : Option Text := none
  /-- The path of the application descriptor, if it is not the usual one. -/
  appengineWebXml : Option Text := none
  securityConstraints : Bool := false
deriving DecidableEq

namespace Config

/-- A number of workers has 64 bits. -/
def threadLimit : Nat := 0x10000000000000000

/-- How the scan is done. -/
def scanOptions (config : Config) : Except Filter.Fault ScanOptions :=
  (Filter.parse config.includeExclude).map fun filter =>
    ⟨filter, config.scanners, config.parallel, config.threads⟩

/-- How routes are found. -/
def routePolicy (config : Config) : Route.Policy where
  routeAnnotationType := config.routeAnnotationType
  roleAnnotationType := config.roleAnnotationType
  elevatedRole := config.elevatedRole
  markerSegment := config.markerSegment
  routeRoot := config.routeRoot
  excluded := .ofList config.excludeClasses

/-- A file of the application's private directory. -/
def privatePath (webapp : Text) (name : String) : Text :=
  Path.join (Path.join webapp "WEB-INF".toList) name.toList

/-- The path of the servlet descriptor. -/
def webXmlPath (config : Config) (webapp : Text) : Text :=
  config.webXml.getD (privatePath webapp "web.xml")

/-- The path of the application descriptor. -/
def appengineWebXmlPath (config : Config) (webapp : Text) : Text :=
  config.appengineWebXml.getD (privatePath webapp "appengine-web.xml")

end Config

end ServletRoutes
