import ServletRoutes.Text.Basic
import ServletRoutes.Unicode.Age
import ServletRoutes.Unicode.Break
import ServletRoutes.Unicode.Category
import ServletRoutes.Unicode.Script.AdlamToCoptic
import ServletRoutes.Unicode.Script.CuneiformToHebrew
import ServletRoutes.Unicode.Script.HiraganaToNewa
import ServletRoutes.Unicode.Script.NkoToZanabazar

/-!
# `ServletRoutes.Unicode.Property`: classes of characters by the names of properties

A class is named by a property that characters have or have not, by a general category or by a
script; or by a property and its value, such as a script, an age or a kind of break. Names are read
without regard to case, spaces, hyphens, underscores and a leading `is`.
-/

set_option autoImplicit false

namespace ServletRoutes.Unicode

/-- The properties that a character has or has not, with their names. -/
def properties : List (List String × Class) := [
  (["alphabetic", "alpha"], .alphabetic),
  (["lowercase", "lower"], ⟨[lowercaseLetter, alsoLowercase], []⟩),
  (["uppercase", "upper"], ⟨[uppercaseLetter, alsoUppercase], []⟩),
  (["cased"], ⟨Class.casedLetter.plus ++ [alsoLowercase, alsoUppercase], []⟩),
  (["caseignorable", "ci"],
    ⟨[nonspacingMark, enclosingMark, format, modifierLetter, modifierSymbol, caselessSign], []⟩),
  (["changeswhenlowercased", "cwl"], ⟨[lowered], []⟩),
  (["changeswhenuppercased", "cwu"], ⟨[raised], []⟩),
  (["changeswhentitlecased", "cwt"], ⟨[raised, titled], [untitled]⟩),
  (["changeswhencasemapped", "cwcm"], ⟨[lowered, raised, titled], []⟩),
  (["changeswhencasefolded", "cwcf"], ⟨[lowered, foldedOnly], [foldedBack]⟩),
  (["softdotted", "sd"], ⟨[softDotted], []⟩),
  (["math"], ⟨[mathSymbol, alsoMath], []⟩),
  (["hexdigit", "hex"], ⟨[hexadecimalDigit], []⟩),
  (["asciihexdigit", "ahex"], ⟨[[⟨0x30, 0x39, 1⟩, ⟨0x41, 0x46, 1⟩, ⟨0x61, 0x66, 1⟩]], []⟩),
  (["whitespace", "wspace", "space"], .blank),
  (["dash"], ⟨[dash], []⟩),
  (["hyphen"], ⟨[hyphen], []⟩),
  (["quotationmark", "qmark"], ⟨[quotationMark], []⟩),
  (["sentenceterminal", "sterm"], ⟨[sentenceTerminal], []⟩),
  (["terminalpunctuation", "term"], ⟨[terminalPunctuation], []⟩),
  (["diacritic", "dia"], ⟨[diacritic], []⟩),
  (["extender", "ext"], ⟨[extender], []⟩),
  (["graphemeextend", "grext"], .attached),
  (["graphemebase", "grbase"],
    ⟨Class.letter.plus ++ Class.number.plus ++ Class.punctuation.plus ++ Class.symbol.plus ++
      [spacingMark, spaceSeparator], [alsoAttached]⟩),
  (["graphemelink", "grlink"], ⟨[consonantLink], []⟩),
  (["modifiercombiningmark", "mcm"], ⟨[modifierCombiningMark], []⟩),
  (["prependedconcatenationmark", "pcm"], ⟨[prependedMark], []⟩),
  (["logicalorderexception", "loe"], ⟨[logicalOrderException], []⟩),
  (["bidicontrol", "bidic"], ⟨[bidiControl], []⟩),
  (["bidimirrored", "bidim"], ⟨[bidiMirrored], []⟩),
  (["joincontrol", "joinc"], ⟨[joinControl], []⟩),
  (["variationselector", "vs"], ⟨[variationSelector], []⟩),
  (["defaultignorablecodepoint", "di"],
    ⟨[format, variationSelector, alsoIgnorable],
      [prependedMark, [⟨0xFFF9, 0xFFFB, 1⟩, ⟨0x13430, 0x1343F, 1⟩]]⟩),
  (["deprecated", "dep"], ⟨[deprecated], []⟩),
  (["noncharactercodepoint", "nchar"], ⟨[noncharacter], []⟩),
  (["regionalindicator", "ri"], ⟨[regionalIndicator], []⟩),
  (["ideographic", "ideo"], ⟨[ideograph], []⟩),
  (["unifiedideograph", "uideo"], ⟨[unifiedIdeograph], []⟩),
  (["radical"], ⟨[radical], []⟩),
  (["idsunaryoperator", "idsu"], ⟨[unaryDescription], []⟩),
  (["idsbinaryoperator", "idsb"], ⟨[binaryDescription], []⟩),
  (["idstrinaryoperator", "idst"], ⟨[ternaryDescription], []⟩),
  (["idstart", "ids"], ⟨identifierStart, [patternSign]⟩),
  (["idcontinue", "idc"], ⟨identifierPart, [patternSign]⟩),
  (["xidstart", "xids"], ⟨identifierStart, [patternSign, decomposedStart]⟩),
  (["xidcontinue", "xidc"], ⟨identifierPart, [patternSign, decomposedPart]⟩),
  (["idcompatmathstart"], ⟨[identifierMathStart], []⟩),
  (["idcompatmathcontinue"], ⟨[identifierMathStart, identifierMathPart], []⟩),
  (["patternsyntax", "patsyn"], ⟨[patternSign], []⟩),
  (["patternwhitespace", "patws"], ⟨[patternBlank], []⟩),
  (["emoji"], ⟨[emoji], []⟩),
  (["emojipresentation", "epres"], ⟨[emojiPresentation], []⟩),
  (["emojimodifier", "emod"], ⟨[emojiModifier], []⟩),
  (["emojimodifierbase", "ebase"], ⟨[emojiModifierBase], []⟩),
  (["emojicomponent", "ecomp"], ⟨[emojiComponent], []⟩),
  (["extendedpictographic", "extpict"], ⟨[pictograph], []⟩),
  (["otheralphabetic", "oalpha"], ⟨[alsoAlphabetic], []⟩),
  (["otherlowercase", "olower"], ⟨[alsoLowercase], []⟩),
  (["otheruppercase", "oupper"], ⟨[alsoUppercase], []⟩),
  (["othermath", "omath"], ⟨[alsoMath], []⟩),
  (["othergraphemeextend", "ogrext"], ⟨[alsoAttached], []⟩),
  (["otheridstart", "oids"], ⟨[alsoIdentifierStart], []⟩),
  (["otheridcontinue", "oidc"], ⟨[alsoIdentifierPart], []⟩),
  (["otherdefaultignorablecodepoint", "odi"], ⟨[alsoIgnorable], []⟩)]
where
  /-- What may begin an identifier. -/
  identifierStart : List (List Run) :=
    Class.letter.plus ++ [letterNumber, alsoIdentifierStart]
  /-- What may continue an identifier. -/
  identifierPart : List (List Run) :=
    identifierStart ++
      [nonspacingMark, spacingMark, decimalNumber, connectorPunctuation, alsoIdentifierPart]

/-- All scripts in the order of their names. -/
def scripts : List Script :=
  scriptsAdlamToCoptic ++ scriptsCuneiformToHebrew ++ scriptsHiraganaToNewa ++ scriptsNkoToZanabazar

/-! ### Names -/

/-- A name without what does not count: a leading `is`, spaces, hyphens, underscores, characters
beyond ASCII, and case. What is left of `isc` would mean something else, so it stays. -/
def normalName (name : Text) : String :=
  let normal (t : Text) : Text :=
    (Text.lowerAscii t).filter fun c => c.toNat < 128 && !(c = ' ' || c = '-' || c = '_')
  match Text.lowerAscii name with
  | 'i' :: 's' :: rest =>
    if normal rest = ['c'] then "isc" else String.ofList (normal rest)
  | t => String.ofList (normal t)

/-- The value with a name in a list of values with their names. -/
def entry? {α : Type} (entries : List (List String × α)) (name : String) : Option α :=
  (entries.find? fun e => e.1.contains name).map (·.2)

/-- The script with a name. -/
def script? (name : String) : Option Script := scripts.find? fun s => s.names.contains name

/-- The characters that a script uses: its own, and those it shares with other scripts. Those of
no script in particular are only the ones that no script lays claim to. -/
def Script.used (s : Script) : Class :=
  ⟨[s.own, s.shared],
    if s.names.contains "common" || s.names.contains "inherited" then scripts.map (·.shared) else []⟩

/-- The code points that had a meaning in the version with a name. -/
def versionClass? (name : String) : Option Class :=
  if versions.any fun v => v.1 = name || v.2.1 = name then
    some ⟨(upTo versions).map (·.2.2), []⟩
  else none
where
  /-- The versions up to the named one. -/
  upTo : List (String × String × List Run) → List (String × String × List Run)
    | [] => []
    | v :: vs => if v.1 = name || v.2.1 = name then [v] else v :: upTo vs

/-- The class with a name: a property, a general category or a script. The short names of the
currency signs, the format characters and the cased letters are those of categories. -/
def Class.named? (name : Text) : Option Class :=
  let name := normalName name
  entry? properties name <|> entry? categories name <|> ((script? name).map fun s => ⟨[s.own], []⟩)

/-- The class of the characters for which a property has a value. -/
def Class.valued? (property value : Text) : Option Class :=
  let value := normalName value
  match normalName property with
  | "gc" | "generalcategory" => entry? categories value
  | "sc" | "script" => (script? value).map fun s => ⟨[s.own], []⟩
  | "scx" | "scriptextensions" => (script? value).map Script.used
  | "age" => versionClass? value
  | "gcb" | "graphemeclusterbreak" => entry? clusterKinds value
  | "wb" | "wordbreak" => entry? wordKinds value
  | "sb" | "sentencebreak" => entry? sentenceKinds value
  | _ => none

end ServletRoutes.Unicode
