import ServletRoutes.Document.LineEnding
import ServletRoutes.Document.Region

/-!
# `ServletRoutes.Document.Layout`: where a region goes and how it is replaced

A document that has a region keeps it in its place and gets a new body. Otherwise the region is
put before the first anchor of the document's layout that occurs in it, between a lead and a
trail of blanks and, for the application descriptor without a section, the section's tags.
-/

set_option autoImplicit false

namespace ServletRoutes.Document

/-- A place for a missing region: right before the anchor, between lead and trail. -/
structure InsertionPoint where
  anchor : Text
  lead : Text
  trail : Text
deriving DecidableEq

/-- The two kinds of deployment descriptors. -/
inductive Layout
  /-- The servlet descriptor. -/
  | webApp
  /-- The descriptor of the application server. -/
  | appEngineWebApp
deriving DecidableEq

namespace Layout

/-- The insertion points of a layout, the preferred one first. -/
def insertionPoints : Layout → LineEnding → List InsertionPoint
  | webApp, ending => [⟨"</web-app>".toList, ending.text ++ List.replicate 4 ' ', ending.text⟩]
  | appEngineWebApp, ending =>
    [⟨"</system-properties>".toList,
        ending.text ++ List.replicate 8 ' ',
        ending.text ++ List.replicate 4 ' '⟩,
      ⟨"</appengine-web-app>".toList,
        ending.text ++ "    <system-properties>".toList ++ ending.text ++ List.replicate 8 ' ',
        ending.text ++ "    </system-properties>".toList ++ ending.text⟩]

/-- The region that an insertion point opens in a document, with the given body, if the anchor
occurs in the document. -/
def openAt? (point : InsertionPoint) (document body : Text) : Option Region :=
  (Text.cut? point.anchor document).map fun (before, after) =>
    ⟨before ++ point.lead, body, point.trail ++ point.anchor ++ after⟩

end Layout

/-- What was done to a document. -/
inductive Action
  /-- A region was put in. -/
  | inserted
  /-- The body of the region was replaced. -/
  | replaced
deriving DecidableEq

/-- The name of an action in reports. -/
def Action.name : Action → Text
  | inserted => "inserted".toList
  | replaced => "replaced".toList

/-- A document after an update. -/
structure Updated where
  text : Text
  action : Action
deriving DecidableEq

/-- Puts a fragment into the region of a document, opening the region where there is none. -/
def update (layout : Layout) (fragment document : Text) : Except Fault Updated :=
  match Region.locate? document with
  | .error fault => .error fault
  | .ok (some region) => .ok ⟨(region.withBody fragment).text, .replaced⟩
  | .ok none =>
    let points := layout.insertionPoints (.detect document)
    match points.findSome? fun point => Layout.openAt? point document fragment with
    | some region => .ok ⟨region.text, .inserted⟩
    | none => .error (.anchorMissing (points.map (·.anchor)))

end ServletRoutes.Document
