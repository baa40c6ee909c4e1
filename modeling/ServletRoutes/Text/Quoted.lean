import ServletRoutes.Text.Basic
import ServletRoutes.Unicode.Class

/-!
# `ServletRoutes.Text.Quoted`: texts and characters quoted for messages

Messages quote a text between double quotes and a character between single quotes. The quote
itself, the backslash and the common controls are written with a backslash; any other character
that cannot be shown alone is written as its code point in braces.
-/

set_option autoImplicit false

namespace ServletRoutes.Text

/-- One character between quotes of the given kind. -/
def quotedChar (quote c : Char) : Text :=
  if c = quote then ['\\', c]
  else
    match c with
    | '\\' => ['\\', '\\']
    | '\n' => ['\\', 'n']
    | '\r' => ['\\', 'r']
    | '\t' => ['\\', 't']
    | '\x00' => ['\\', '0']
    | _ =>
      if Unicode.isShown c then [c]
      else "\\u\x7b".toList ++ hexadecimal c.toNat ++ ['}']

/-- A text between double quotes. -/
def quoted (t : Text) : Text := '"' :: t.flatMap (quotedChar '"') ++ ['"']

/-- A character between single quotes. -/
def quotedSingle (c : Char) : Text := '\'' :: quotedChar '\'' c ++ ['\'']

/-- Texts between double quotes, in square brackets. -/
def quotedList (ts : List Text) : Text :=
  '[' :: join ", ".toList (ts.map quoted) ++ [']']

end ServletRoutes.Text
