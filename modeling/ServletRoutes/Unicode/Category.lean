import ServletRoutes.Unicode.Class

/-!
# `ServletRoutes.Unicode.Category`: general categories by name

Each general category and each group of them goes by a short and a long name, here in small letters
without underscores. The surrogates are no characters and have no entry.
-/

set_option autoImplicit false

namespace ServletRoutes.Unicode

/-- The general categories with their names. -/
def categories : List (List String × Class) := [
  (["letter", "l"], .letter),
  (["casedletter", "lc"], .casedLetter),
  (["uppercaseletter", "lu"], ⟨[uppercaseLetter], []⟩),
  (["lowercaseletter", "ll"], ⟨[lowercaseLetter], []⟩),
  (["titlecaseletter", "lt"], ⟨[titlecaseLetter], []⟩),
  (["modifierletter", "lm"], ⟨[modifierLetter], []⟩),
  (["otherletter", "lo"], ⟨[otherLetter], []⟩),
  (["mark", "m", "combiningmark"], .mark),
  (["nonspacingmark", "mn"], ⟨[nonspacingMark], []⟩),
  (["spacingmark", "mc"], ⟨[spacingMark], []⟩),
  (["enclosingmark", "me"], ⟨[enclosingMark], []⟩),
  (["number", "n"], .number),
  (["decimalnumber", "nd", "digit"], .digit),
  (["letternumber", "nl"], ⟨[letterNumber], []⟩),
  (["othernumber", "no"], ⟨[otherNumber], []⟩),
  (["punctuation", "p", "punct"], .punctuation),
  (["connectorpunctuation", "pc"], ⟨[connectorPunctuation], []⟩),
  (["dashpunctuation", "pd"], ⟨[dashPunctuation], []⟩),
  (["openpunctuation", "ps"], ⟨[openPunctuation], []⟩),
  (["closepunctuation", "pe"], ⟨[closePunctuation], []⟩),
  (["initialpunctuation", "pi"], ⟨[initialPunctuation], []⟩),
  (["finalpunctuation", "pf"], ⟨[finalPunctuation], []⟩),
  (["otherpunctuation", "po"], ⟨[otherPunctuation], []⟩),
  (["symbol", "s"], .symbol),
  (["mathsymbol", "sm"], ⟨[mathSymbol], []⟩),
  (["currencysymbol", "sc"], ⟨[currencySymbol], []⟩),
  (["modifiersymbol", "sk"], ⟨[modifierSymbol], []⟩),
  (["othersymbol", "so"], ⟨[otherSymbol], []⟩),
  (["separator", "z"], .separator),
  (["spaceseparator", "zs"], ⟨[spaceSeparator], []⟩),
  (["lineseparator", "zl"], ⟨[lineSeparator], []⟩),
  (["paragraphseparator", "zp"], ⟨[paragraphSeparator], []⟩),
  (["other", "c"], .other),
  (["control", "cc", "cntrl"], ⟨[control], []⟩),
  (["format", "cf"], ⟨[format], []⟩),
  (["privateuse", "co"], ⟨[privateUse], []⟩),
  (["unassigned", "cn"], .unassigned),
  (["any"], .everything),
  (["assigned"], .assigned),
  (["ascii"], ⟨[[⟨0, 0x7F, 1⟩]], []⟩)]

end ServletRoutes.Unicode
