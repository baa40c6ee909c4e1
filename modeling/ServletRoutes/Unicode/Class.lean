import ServletRoutes.Unicode.Letter
import ServletRoutes.Unicode.Mark
import ServletRoutes.Unicode.Number
import ServletRoutes.Unicode.Sign
import ServletRoutes.Unicode.Blank
import ServletRoutes.Unicode.Supplement
import ServletRoutes.Unicode.Recent

/-!
# `ServletRoutes.Unicode.Class`: classes of characters

A class is put together from tables: it has the characters of some and leaves out those of others.
The classes of letters, marks, numbers and the like are the basis of all properties. The last
section says which characters count as letters and which a quoted text shows as they are.
-/

set_option autoImplicit false

namespace ServletRoutes.Unicode

/-- The characters of some tables without those of others. -/
structure Class where
  plus : List (List Run)
  minus : List (List Run) := []

namespace Class

/-- The character belongs to the class. -/
def contains (k : Class) (c : Char) : Bool :=
  k.plus.any (inRuns · c) && !k.minus.any (inRuns · c)

/-- Every code point. -/
def everything : Class := ⟨[[⟨0, 0x10FFFF, 1⟩]], []⟩

/-- Letters of any case or of none. -/
def letter : Class :=
  ⟨[uppercaseLetter, lowercaseLetter, titlecaseLetter, modifierLetter, otherLetter], []⟩

/-- Letters in upper, lower or title case. -/
def casedLetter : Class := ⟨[uppercaseLetter, lowercaseLetter, titlecaseLetter], []⟩

/-- Marks of all kinds. -/
def mark : Class := ⟨[nonspacingMark, spacingMark, enclosingMark], []⟩

/-- Numbers of all kinds. -/
def number : Class := ⟨[decimalNumber, letterNumber, otherNumber], []⟩

/-- Punctuation of all kinds. -/
def punctuation : Class :=
  ⟨[connectorPunctuation, dashPunctuation, openPunctuation, closePunctuation, initialPunctuation,
    finalPunctuation, otherPunctuation], []⟩

/-- Symbols of all kinds. -/
def symbol : Class := ⟨[mathSymbol, currencySymbol, modifierSymbol, otherSymbol], []⟩

/-- Separators of all kinds. -/
def separator : Class := ⟨[spaceSeparator, lineSeparator, paragraphSeparator], []⟩

/-- Code points that have a general category; the surrogates are among them. -/
def assigned : Class :=
  ⟨letter.plus ++ mark.plus ++ number.plus ++ punctuation.plus ++ symbol.plus ++ separator.plus ++
    [control, format, privateUse, [⟨0xD800, 0xDFFF, 1⟩]], []⟩

/-- Code points without a general category. -/
def unassigned : Class := ⟨everything.plus, assigned.plus⟩

/-- Everything that is no letter, mark, number, punctuation, symbol or separator. -/
def other : Class :=
  ⟨everything.plus, letter.plus ++ mark.plus ++ number.plus ++ punctuation.plus ++ symbol.plus ++
    separator.plus⟩

/-- Characters that count as alphabetic. -/
def alphabetic : Class := ⟨letter.plus ++ [letterNumber, alsoAlphabetic], []⟩

/-- Characters that extend the one before them. -/
def attached : Class := ⟨[nonspacingMark, enclosingMark, alsoAttached], []⟩

/-- White space: tab to carriage return, the next-line character and all separators. -/
def blank : Class := ⟨[⟨0x9, 0xD, 1⟩, ⟨0x85, 0x85, 1⟩] :: separator.plus, []⟩

/-- Decimal digits of any script. -/
def digit : Class := ⟨[decimalNumber], []⟩

/-- Characters of words: alphabetic ones, marks, digits, connectors and the two joiners. -/
def word : Class :=
  ⟨alphabetic.plus ++ mark.plus ++ [decimalNumber, connectorPunctuation, [⟨0x200C, 0x200D, 1⟩]], []⟩

end Class

/-- White space. -/
def isBlank (c : Char) : Bool := Class.blank.contains c

/-! ### Letters of names and characters of messages -/

/-- Characters that count as letters, those added last included. -/
def isAlphabetic (c : Char) : Bool := Class.alphabetic.contains c || inRuns recentAlphabetic c

/-- Letters and numbers, those added last included. -/
def isAlphanumeric (c : Char) : Bool :=
  isAlphabetic c || Class.number.contains c || inRuns recentNumber c

/-- Characters that a quoted text shows as they are: the space, and whatever can be seen and stands
for itself. Extending characters do not, but for modifier letters; nor do letters that are left out
when there is no glyph for them. -/
def isShown (c : Char) : Bool :=
  c = ' ' || inRuns recentShown c || inRuns modifierLetter c ||
    (Class.mk (Class.letter.plus ++ Class.mark.plus ++ Class.number.plus ++ Class.punctuation.plus ++
      Class.symbol.plus) (alsoIgnorable :: Class.attached.plus)).contains c

end ServletRoutes.Unicode
