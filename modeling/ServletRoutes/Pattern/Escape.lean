import ServletRoutes.Pattern.Flags
import ServletRoutes.Unicode.Property

/-!
# `ServletRoutes.Pattern.Escape`: characters written with a backslash

After a backslash stand punctuation that means itself, a letter for a control character, a code
point in hexadecimal, a class of characters, or a test of the spot. Everything else is refused.
-/

set_option autoImplicit false

namespace ServletRoutes.Pattern

/-- What a character or an escape stands for. -/
inductive Piece
  /-- A character. -/
  | literal (c : Char)
  /-- A character written as two hexadecimal digits, which is a byte where classes are ASCII. -/
  | byte (c : Char)
  /-- A class of characters. -/
  | charSet (set : CharSet)
  /-- A test of the spot. -/
  | spot (test : Spot)

/-- The character with a code point. -/
def scalar? (n : Nat) : Option Char :=
  if n < 0xD800 || (0xDFFF < n && n < 0x110000) then some (Char.ofNat n) else none

/-- The value of a hexadecimal digit. -/
def hexDigit? (c : Char) : Option Nat :=
  if c.isDigit then some (c.toNat - 48)
  else if 'a'.toNat ≤ c.toNat && c.toNat ≤ 'f'.toNat then some (c.toNat - 87)
  else if 'A'.toNat ≤ c.toNat && c.toNat ≤ 'F'.toNat then some (c.toNat - 55)
  else none

/-- A number of exactly so many hexadecimal digits. -/
def hexDigits? (flags : Flags) : Nat → Nat → Text → Option (Nat × Text)
  | 0, value, t => some (value, t)
  | _ + 1, _, [] => none
  | n + 1, value, c :: t =>
    (hexDigit? c).bind fun d => hexDigits? flags n (16 * value + d) (flags.skip t)

/-- The hexadecimal digits up to a closing brace; blanks between them may be left out. -/
def bracedHex? (flags : Flags) : Nat → Option Nat → Text → Option (Nat × Text)
  | 0, _, _ => none
  | _ + 1, _, [] => none
  | n + 1, value, c :: t =>
    if c = '}' then value.map fun v => (v, flags.skip t)
    else
      (hexDigit? c).bind fun d =>
        bracedHex? flags n (some (16 * value.getD 0 + d)) (flags.skip t)

/-- A code point after `x`, `u` or `U`, which take two, four and eight digits, or any number in
braces. -/
def hexEscape? (flags : Flags) (digits : Nat) (t : Text) : Option (Piece × Text) :=
  match flags.skip t with
  | '\x7b' :: t => do
    let t := flags.skip t
    let (n, rest) ← bracedHex? flags (t.length + 1) none t
    let c ← scalar? n
    return (.literal c, rest)
  | t => do
    let (n, rest) ← hexDigits? flags digits 0 t
    let c ← scalar? n
    return (if digits = 2 then .byte c else .literal c, rest)

/-- The text up to a closing brace, without what the flags leave out. -/
def bracedName? (flags : Flags) : Nat → Text → Option (Text × Text)
  | 0, _ => none
  | _ + 1, [] => none
  | n + 1, c :: t =>
    if c = '}' then some ([], t)
    else (bracedName? flags n (flags.skip t)).map fun (name, rest) => (c :: name, rest)

/-- The class with a name in braces: a name alone, or a property and its value with `=` or `:`
between them, or with `!=` for all other characters. -/
def classNamed? (name : Text) : Option (Bool × Unicode.Class) :=
  match Text.cut? "!=".toList name with
  | some (property, value) => (Unicode.Class.valued? property value).map (true, ·)
  | none =>
    match (Text.cut? [':'] name).or (Text.cut? ['='] name) with
    | some (property, value) => (Unicode.Class.valued? property value).map (false, ·)
    | none => (Unicode.Class.named? name).map (false, ·)

/-- The characters of a class of Unicode, named by one letter or in braces. -/
def propertyEscape? (flags : Flags) (negated : Bool) (t : Text) : Option (Piece × Text) := do
  let (name, rest) ←
    match flags.skip t with
    | '\x7b' :: t =>
      let t := flags.skip t
      bracedName? flags (t.length + 1) t
    | c :: t => if c = '\\' then none else some ([c], flags.skip t)
    | [] => none
  let (unequal, named) ← classNamed? name
  if flags.unicode then
    let set ← flags.signed? (negated != unequal) (flags.foldedSet (.ofClass named))
    return (.charSet set, rest)
  else none

/-- Characters that may name a kind of word boundary in braces. -/
def isBoundaryNameChar (c : Char) : Bool := c.isAlpha || c = '-'

/-- The name of a kind of word boundary, up to the first character that cannot belong to one. -/
def boundaryName (flags : Flags) : Nat → Text → Text × Text
  | 0, t => ([], t)
  | _ + 1, [] => ([], [])
  | n + 1, c :: t =>
    if isBoundaryNameChar c then
      let (name, rest) := boundaryName flags n (flags.skip t)
      (c :: name, rest)
    else ([], c :: t)

/-- A word boundary, plain or of the kind named in braces. Braces that cannot hold a name are a
repetition count and are left alone. -/
def boundaryEscape? (flags : Flags) (t : Text) : Option (Piece × Text) :=
  let plain : Piece := .spot (flags.wordSpot .boundary)
  match t with
  | '\x7b' :: u =>
    match flags.skip u with
    | [] => none
    | c :: v =>
      if isBoundaryNameChar c then
        match boundaryName flags (v.length + 2) (c :: v) with
        | (name, '\x7d' :: rest) =>
          let kind (k : WordSpot) : Option (Piece × Text) := some (.spot (flags.wordSpot k), rest)
          if name = "start".toList then kind .start
          else if name = "end".toList then kind .finish
          else if name = "start-half".toList then kind .startHalf
          else if name = "end-half".toList then kind .finishHalf
          else none
        | _ => none
      else some (plain, t)
  | _ => some (plain, t)

/-- A class given by a letter, which is in upper case for the complement. -/
def classEscape? (flags : Flags) (negated : Bool) (set : CharSet) (t : Text) :
    Option (Piece × Text) :=
  (flags.signed? negated set).map fun set => (.charSet set, t)

/-- What follows a backslash. -/
def escape? (flags : Flags) : Text → Option (Piece × Text)
  | [] => none
  | c :: t =>
    match c with
    | 'x' => hexEscape? flags 2 t
    | 'u' => hexEscape? flags 4 t
    | 'U' => hexEscape? flags 8 t
    | 'p' => propertyEscape? flags false t
    | 'P' => propertyEscape? flags true t
    | 'd' => classEscape? flags false flags.digitSet t
    | 'D' => classEscape? flags true flags.digitSet t
    | 's' => classEscape? flags false flags.blankSet t
    | 'S' => classEscape? flags true flags.blankSet t
    | 'w' => classEscape? flags false flags.wordSet t
    | 'W' => classEscape? flags true flags.wordSet t
    | 'a' => some (.literal '\x07', t)
    | 'f' => some (.literal '\x0C', t)
    | 't' => some (.literal '\t', t)
    | 'n' => some (.literal '\n', t)
    | 'r' => some (.literal '\r', t)
    | 'v' => some (.literal '\x0B', t)
    | 'A' => some (.spot .textStart, t)
    | 'z' => some (.spot .textEnd, t)
    | 'b' => boundaryEscape? flags t
    | 'B' => some (.spot (flags.wordSpot .inside), t)
    | '<' => some (.spot (flags.wordSpot .start), t)
    | '>' => some (.spot (flags.wordSpot .finish), t)
    -- letters and digits are kept for escapes that may come
    | c => if c.toNat < 128 && !c.isAlphanum then some (.literal c, t) else none

end ServletRoutes.Pattern
