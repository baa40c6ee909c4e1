import ServletRoutes.Route.Policy
import ServletRoutes.Route.Mapping
import ServletRoutes.Annotations.Store

/-!
# `ServletRoutes.Route.Resolution`: the routes of candidate types

Every candidate that is not excluded either gets a mapping or is skipped. Its explicit routes
win; without them a type whose name holds the marker segment gets one route by convention, made
of what follows the segment, and any other type is skipped. Candidates are visited in name
order, so the first name without a place for the marker decides which fault is reported.
-/

set_option autoImplicit false

namespace ServletRoutes.Route

open Annotations (Store Key)

/-- A type's name holds the marker, but not as a segment of its own. -/
structure SegmentMissing where
  typeName : Text
  marker : Text
deriving DecidableEq

/-- The wording of the fault. -/
def SegmentMissing.message (f : SegmentMissing) : Text :=
  "type ".toList ++ f.typeName ++ " matches `".toList ++ f.marker ++ "` but has no `".toList ++
    f.marker ++ "/` segment to derive a route from".toList

/-- What became of the candidates, in name order. -/
structure Resolution where
  mappings : List Mapping
  skipped : List Text
deriving DecidableEq

namespace Resolution

/-- The number of URL patterns. -/
def patternCount (r : Resolution) : Nat := total (fun m => m.patterns.length) r.mappings

/-- The number of URL patterns of elevated mappings. -/
def elevatedPatternCount (r : Resolution) : Nat :=
  total (fun m => m.patterns.length) (r.mappings.filter fun m => m.elevated)

end Resolution

/-- The first occurrence of each text, in order. -/
def withoutRepeats : List Text → List Text
  | [] => []
  | t :: ts => t :: (withoutRepeats ts).filter fun u => u ≠ t

namespace Policy

/-- The explicit routes of a type. -/
def explicitRoutes (policy : Policy) (store : Store) (typeName : Text) : List Text :=
  store.values ⟨typeName, policy.routeAnnotationType⟩

/-- Only the single elevated role makes a mapping an elevated one. -/
def isElevated (policy : Policy) (store : Store) (typeName : Text) : Bool :=
  store.values ⟨typeName, policy.roleAnnotationType⟩ = [policy.elevatedRole]

/-- The route made of what follows the marker segment, the dots of the name read as slashes. -/
def conventionalRoute (policy : Policy) (typeName : Text) : Except SegmentMissing Text :=
  match Text.cut? (policy.markerSegment ++ ['/']) (Text.replace '.' '/' typeName) with
  | some (_, rest) => .ok (policy.routeRoot ++ rest)
  | none => .error ⟨typeName, policy.markerSegment⟩

/-- The URL patterns of a type; none for a type that is skipped. -/
def patterns (policy : Policy) (store : Store) (typeName : Text) :
    Except SegmentMissing (List Text) :=
  let explicit := policy.explicitRoutes store typeName
  if explicit ≠ [] then .ok (withoutRepeats explicit)
  else if Text.contains policy.markerSegment typeName then
    (policy.conventionalRoute typeName).map fun route => [route]
  else .ok []

/-- The mapping of a type with the given URL patterns. -/
def mapping (policy : Policy) (store : Store) (typeName : Text) (patterns : List Text) : Mapping :=
  ⟨typeName, servletNameOf typeName, patterns, policy.isElevated store typeName⟩

/-- Resolves names one after the other. -/
def resolveNames (policy : Policy) (store : Store) : List Text → Except SegmentMissing Resolution
  | [] => .ok ⟨[], []⟩
  | name :: names =>
    if name ∈ policy.excluded then policy.resolveNames store names
    else
      match policy.patterns store name with
      | .error fault => .error fault
      | .ok patterns =>
        (policy.resolveNames store names).map fun r =>
          if patterns = [] then { r with skipped := name :: r.skipped }
          else { r with mappings := policy.mapping store name patterns :: r.mappings }

/-- Resolves a set of candidates. -/
def resolve (policy : Policy) (store : Store) (candidates : NameSet) :
    Except SegmentMissing Resolution :=
  policy.resolveNames store candidates.toList

end Policy

end ServletRoutes.Route
