import ServletRoutes.Document.Layout
import ServletRoutes.Text.Slice

/-!
# `ServletRoutes.Document.Splicing`: updates by offsets

The bytes of a document are searched for the markers and the anchors and cut at the offsets that are
found. Such an update could come to nothing in a way that `update` cannot, because a document may not
be cut within a code point: the outer option is for that.
-/

set_option autoImplicit false

namespace ServletRoutes.Document

open Text.Utf8 (encode find? slice?)

/-- The offsets between which the body of the region stands, if there is a region. -/
def regionAt? (document : Bytes) : Option (Except Fault (Option (Nat × Nat))) :=
  match find? (encode startMarker) document with
  | none => some (.ok none)
  | some start => do
    let bodyStart := start + (encode startMarker).length
    let rest ← slice? document bodyStart document.length
    match find? (encode endMarker) rest with
    | none => some (.error .unterminated)
    | some offset => some (.ok (some (bodyStart, bodyStart + offset)))

/-- The line ending of a document. -/
def endingOf (document : Bytes) : LineEnding :=
  if (find? (encode LineEnding.crlf.text) document).isSome then .crlf else .lf

/-- The first insertion point whose anchor stands in a document, with the offset of the anchor. -/
def openingAt? (points : List InsertionPoint) (document : Bytes) : Option (InsertionPoint × Nat) :=
  points.findSome? fun point => (find? (encode point.anchor) document).map fun offset =>
    (point, offset)

/-- The markers with a fragment between them, as an insertion point wraps them. -/
def wrapped (point : InsertionPoint) (fragment : Bytes) : Bytes :=
  encode point.lead ++ encode startMarker ++ fragment ++ encode endMarker ++ encode point.trail

/-- Puts a fragment between the offsets of the region, opening the region where there is none. -/
def splice? (layout : Layout) (fragment document : Bytes) :
    Option (Except Fault (Bytes × Action)) := do
  match ← regionAt? document with
  | .error fault => some (.error fault)
  | .ok (some (bodyStart, bodyEnd)) =>
    let head ← slice? document 0 bodyStart
    let tail ← slice? document bodyEnd document.length
    some (.ok (head ++ fragment ++ tail, .replaced))
  | .ok none =>
    let points := layout.insertionPoints (endingOf document)
    match openingAt? points document with
    | none => some (.error (.anchorMissing (points.map (·.anchor))))
    | some (point, offset) =>
      let before ← slice? document 0 offset
      let after ← slice? document offset document.length
      some (.ok (before ++ wrapped point fragment ++ after, .inserted))

end ServletRoutes.Document
