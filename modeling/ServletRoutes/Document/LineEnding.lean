import ServletRoutes.Text.Basic

/-!
# `ServletRoutes.Document.LineEnding`: the line ending of a document

Generated lines end like the lines of the document they go into. A document counts as one with
two-character line endings as soon as one of them occurs in it.
-/

set_option autoImplicit false

namespace ServletRoutes.Document

/-- How the lines of a document end. -/
inductive LineEnding
  | lf
  | crlf
deriving DecidableEq

namespace LineEnding

/-- The characters of one line ending. -/
def text : LineEnding → Text
  | lf => ['\n']
  | crlf => ['\r', '\n']

/-- The line ending of a document. -/
def detect (document : Text) : LineEnding :=
  if Text.contains crlf.text document then crlf else lf

end LineEnding

end ServletRoutes.Document
