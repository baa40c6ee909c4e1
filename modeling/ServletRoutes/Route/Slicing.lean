import ServletRoutes.Route.Resolution
import ServletRoutes.Text.Slice

/-!
# `ServletRoutes.Route.Slicing`: conventional routes by offsets

The bytes of a name that is read with slashes are searched for the marker segment, and the route is
cut from them at the offset behind it. Such a cut could lie within a code point: the outer option is
for that.
-/

set_option autoImplicit false

namespace ServletRoutes.Route.Policy

open Text.Utf8 (encode find? slice?)

/-- The bytes of the route that begins behind the first marker segment. -/
def slicedRoute? (policy : Policy) (typeName : Text) : Option (Except SegmentMissing Bytes) :=
  let slashed := encode (Text.replace '.' '/' typeName)
  let segment := encode (policy.markerSegment ++ ['/'])
  match find? segment slashed with
  | none => some (.error ⟨typeName, policy.markerSegment⟩)
  | some start =>
    (slice? slashed (start + segment.length) slashed.length).map fun rest =>
      .ok (encode policy.routeRoot ++ rest)

end ServletRoutes.Route.Policy
