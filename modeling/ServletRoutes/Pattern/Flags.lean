import ServletRoutes.Text.Basic
import ServletRoutes.Pattern.Expr

/-!
# `ServletRoutes.Pattern.Flags`: how the parts of a pattern are read

Flags set inside a pattern decide how the rest of the group is read: without regard to case, with
line anchors, with a dot that matches line feeds too, with blanks and comments left out, and with
ASCII classes in place of Unicode ones.
-/

set_option autoImplicit false

namespace ServletRoutes.Pattern

/-- The flags in force at one place of a pattern. -/
structure Flags where
  /-- `i`: letters match whatever their case. -/
  anyCase : Bool := false
  /-- `m`: the anchors match at line ends too. -/
  lines : Bool := false
  /-- `s`: the dot matches a line feed. -/
  dotAll : Bool := false
  /-- `x`: blanks and comments are left out. -/
  spaced : Bool := false
  /-- `R`: carriage returns end lines too. -/
  crlf : Bool := false
  /-- `U`: repetitions are lazy without a mark, and not with one. -/
  swapped : Bool := false
  /-- `u`: classes are those of Unicode. -/
  unicode : Bool := true

namespace Flags

/-- Sets the flag with a letter. -/
def set? (flags : Flags) (letter : Char) (on : Bool) : Option Flags :=
  match letter with
  | 'i' => some { flags with anyCase := on }
  | 'm' => some { flags with lines := on }
  | 's' => some { flags with dotAll := on }
  | 'x' => some { flags with spaced := on }
  | 'R' => some { flags with crlf := on }
  | 'u' => some { flags with unicode := on }
  | 'U' => some { flags with swapped := on }
  | _ => none

/-! ### Blanks and comments -/

/-- Leaves out blanks and comments; a comment runs to the end of its line. -/
def skipBlanks (inComment : Bool) : Text → Text
  | [] => []
  | c :: t =>
    if inComment then skipBlanks (c ≠ '\n') t
    else if Unicode.isBlank c then skipBlanks false t
    else if c = '#' then skipBlanks true t
    else c :: t

/-- Leaves out what the flags say is left out. -/
def skip (flags : Flags) (t : Text) : Text := if flags.spaced then skipBlanks false t else t

/-- The character that decides whether a hyphen in a class stands for itself. -/
def peek? (flags : Flags) (t : Text) : Option Char :=
  if flags.spaced then
    match t.dropWhile Unicode.isBlank with
    | [] => t.head?
    | '#' :: u => (u.dropWhile Unicode.isBlank).head?.or t.head?
    | c :: _ => some c
  else t.head?

/-! ### Characters and spots -/

/-- A set, closed under change of case where the flags ask for it. -/
def foldedSet (flags : Flags) (set : CharSet) : CharSet :=
  if flags.anyCase then if flags.unicode then set.closed else set.closedAscii else set

/-- A set or its complement. Without Unicode classes a complement would hold bytes that are no
characters, so there is none. -/
def signed? (flags : Flags) (negated : Bool) (set : CharSet) : Option CharSet :=
  if negated then if flags.unicode then some set.complement else none else some set

/-- Word characters. -/
def wordSet (flags : Flags) : CharSet :=
  if flags.unicode then .ofClass .word
  else .ofRanges [⟨0x30, 0x39⟩, ⟨0x41, 0x5A⟩, ⟨0x5F, 0x5F⟩, ⟨0x61, 0x7A⟩]

/-- Digits. -/
def digitSet (flags : Flags) : CharSet :=
  if flags.unicode then .ofClass .digit else .between 0x30 0x39

/-- White space. -/
def blankSet (flags : Flags) : CharSet :=
  if flags.unicode then .ofClass .blank else .ofRanges [⟨0x9, 0xD⟩, ⟨0x20, 0x20⟩]

/-- What the dot matches. -/
def dot? (flags : Flags) : Option CharSet :=
  if !flags.unicode then none
  else if flags.dotAll then some .full
  else if flags.crlf then some (CharSet.ofRanges [⟨0xA, 0xA⟩, ⟨0xD, 0xD⟩]).complement
  else some (CharSet.single '\n').complement

/-- Where a line or the text begins. -/
def atStart (flags : Flags) : Spot := if flags.lines then .lineStart flags.crlf else .textStart

/-- Where a line or the text ends. -/
def atEnd (flags : Flags) : Spot := if flags.lines then .lineEnd flags.crlf else .textEnd

/-- A test of the word characters around a spot. -/
def wordSpot (flags : Flags) (kind : WordSpot) : Spot := .word flags.unicode kind

end Flags

end ServletRoutes.Pattern
