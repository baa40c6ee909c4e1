import ServletRoutes.Text.Basic

/-!
# `ServletRoutes.Document.Escape`: texts inside XML

A value that stands in an XML document must not contain markup. Line breaks are written as
character references too, so a value never starts a new line.
-/

set_option autoImplicit false

namespace ServletRoutes.Document

/-- How one character of a value is written. -/
def escapeChar : Char → Text
  | '&' => "&amp;".toList
  | '<' => "&lt;".toList
  | '>' => "&gt;".toList
  | '"' => "&quot;".toList
  | '\r' => "&#13;".toList
  | '\n' => "&#10;".toList
  | c => [c]

/-- How a value is written in element content and in attributes. -/
def escape (value : Text) : Text := value.flatMap escapeChar

end ServletRoutes.Document
