import ServletRoutes.Text.Quoted

/-!
# `ServletRoutes.Document.Region`: the generated region of a document

The region lies between the first start marker of a document and the first end marker after it.
Locating it splits the document into what stands before, between and after the markers;
`text_of_locate?` says that the parts make up the document.
-/

set_option autoImplicit false

namespace ServletRoutes.Document

/-- Opens the generated region. -/
def startMarker : Text := "<!-- Generated servlet mapping -->".toList

/-- Closes the generated region. -/
def endMarker : Text := "<!-- End Generated servlet mapping -->".toList

/-- Why a document cannot take a fragment. -/
inductive Fault
  /-- There is neither a region nor one of the anchors before which it could be put. -/
  | anchorMissing (anchors : List Text)
  /-- The region is opened and not closed. -/
  | unterminated
deriving DecidableEq

/-- The wording of a fault. -/
def Fault.message : Fault → Text
  | anchorMissing anchors =>
    "no generated region and none of the anchors ".toList ++ Text.quotedList anchors ++
      " is present".toList
  | unterminated => "start marker found without a following end marker".toList

/-- A document with a region, cut at the inner ends of its markers. -/
structure Region where
  /-- What stands before the start marker. -/
  head : Text
  /-- What stands between the markers. -/
  body : Text
  /-- What stands after the end marker. -/
  tail : Text
deriving DecidableEq

namespace Region

/-- The whole document. -/
def text (r : Region) : Text := r.head ++ startMarker ++ r.body ++ endMarker ++ r.tail

/-- The document with another body. -/
def withBody (r : Region) (body : Text) : Region := { r with body }

/-- The byte offset at which the body begins. -/
def bodyStart (r : Region) : Nat := Text.byteSize (r.head ++ startMarker)

/-- The byte offset at which the body ends. -/
def bodyEnd (r : Region) : Nat := Text.byteSize (r.head ++ startMarker ++ r.body)

/-- The region of a document, if it has one. -/
def locate? (document : Text) : Except Fault (Option Region) :=
  match Text.cut? startMarker document with
  | none => .ok none
  | some (head, rest) =>
    match Text.cut? endMarker rest with
    | none => .error .unterminated
    | some (body, tail) => .ok (some ⟨head, body, tail⟩)

/-- The parts of a located region make up the document. -/
theorem text_of_locate? {document : Text} {r : Region} (h : locate? document = .ok (some r)) :
    r.text = document := by
  unfold locate? at h
  split at h
  · simp at h
  next head rest hcut =>
    split at h
    · simp at h
    next body tail hcut' =>
      simp only [Except.ok.injEq, Option.some.injEq] at h
      subst h
      simp [text, Text.cut?_eq_some hcut, Text.cut?_eq_some hcut']

end Region

end ServletRoutes.Document
