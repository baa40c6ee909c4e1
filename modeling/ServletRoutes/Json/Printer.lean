import ServletRoutes.Text.Basic

/-!
# `ServletRoutes.Json.Printer`: reports as JSON

A report is printed with one item or member per line, indented by two blanks per level. Only
quotes, backslashes and control characters are escaped.
-/

set_option autoImplicit false

namespace ServletRoutes.Json

/-- A report. -/
inductive Report
  | boolean (value : Bool)
  | text (content : Text)
  | list (items : List Report)
  | object (members : List (String × Report))

/-- One character of a printed string. -/
def printedChar (c : Char) : Text :=
  match c with
  | '"' => ['\\', '"']
  | '\\' => ['\\', '\\']
  | '\x08' => ['\\', 'b']
  | '\x0C' => ['\\', 'f']
  | '\n' => ['\\', 'n']
  | '\r' => ['\\', 'r']
  | '\t' => ['\\', 't']
  | c =>
    if c.toNat < 0x20 then
      let digits := Text.hexadecimal c.toNat
      "\\u".toList ++ List.replicate (4 - digits.length) '0' ++ digits
    else [c]

/-- A printed string. -/
def printedText (t : Text) : Text := '"' :: t.flatMap printedChar ++ ['"']

/-- A line break and the indentation of a level. -/
def newLine (level : Nat) : Text := '\n' :: List.replicate (2 * level) ' '

/-- Printed parts between brackets, one per line. -/
def bracketed (level : Nat) (opening closing : Char) (parts : List Text) : Text :=
  if parts = [] then [opening, closing]
  else
    opening :: Text.join [','] (parts.map fun part => newLine (level + 1) ++ part) ++
      newLine level ++ [closing]

namespace Report

mutual

/-- The printed form at a level of indentation. -/
def printAt (level : Nat) : Report → Text
  | boolean value => if value then "true".toList else "false".toList
  | text content => printedText content
  | list items => bracketed level '[' ']' (printItems (level + 1) items)
  | object members => bracketed level '\x7b' '\x7d' (printMembers (level + 1) members)

/-- The printed forms of items. -/
def printItems (level : Nat) : List Report → List Text
  | [] => []
  | item :: items => printAt level item :: printItems level items

/-- The printed forms of members. -/
def printMembers (level : Nat) : List (String × Report) → List Text
  | [] => []
  | (name, value) :: members =>
    (printedText name.toList ++ ": ".toList ++ printAt level value) :: printMembers level members

end

/-- The printed form. -/
def print (r : Report) : Text := r.printAt 0

end Report

end ServletRoutes.Json
