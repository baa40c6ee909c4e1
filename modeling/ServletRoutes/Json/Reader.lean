import ServletRoutes.Text.Basic

/-!
# `ServletRoutes.Json.Reader`: reading JSON from left to right

A reader takes what it expects from the beginning of a text. The first problem from the left ends
the reading: the text ends too early, it is no JSON, or a well-formed value is of the wrong kind.
-/

set_option autoImplicit false

namespace ServletRoutes.Json

/-- What is wrong with a JSON text. -/
inductive Fault
  /-- The text ends before the value does. -/
  | unfinished
  /-- The text is no JSON. -/
  | malformed
  /-- A value is not of the kind that is expected. -/
  | unsuitable
deriving DecidableEq

/-- Takes a value from the beginning of a text, or fails. -/
abbrev Reader (α : Type) := StateT Text (Except Fault) α

namespace Reader

/-- Fails. -/
def fail {α : Type} (fault : Fault) : Reader α := fun _ => .error fault

/-- White space between the parts of a value. -/
def isBlank (c : Char) : Bool := c = ' ' || c = '\n' || c = '\t' || c = '\r'

/-- The next character, if the text goes on. -/
def here? : Reader (Option Char) := fun t => .ok (t.head?, t)

/-- The next character that is not blank, which is not taken. -/
def next? : Reader (Option Char) := fun t =>
  let t := t.dropWhile isBlank
  .ok (t.head?, t)

/-- Takes one character. -/
def advance : Reader Unit := fun t => .ok ((), t.tail)

/-- Takes one character, which must be there. -/
def char : Reader Char
  | [] => .error .unfinished
  | c :: t => .ok (c, t)

/-- The number of characters left. -/
def remaining : Reader Nat := fun t => .ok (t.length, t)

/-- The next character that is not blank, which must be there and is not taken. -/
def next : Reader Char := do
  match ← next? with
  | some c => return c
  | none => fail .unfinished

/-- Takes the character if it is the next one that is not blank. -/
def expect (c : Char) : Reader Unit := do
  if (← next) = c then advance else fail .malformed

/-- Takes the rest of a word. -/
def word : Text → Reader Unit
  | [] => return ()
  | c :: cs => do
    if (← char) = c then word cs else fail .malformed

/-! ### Strings -/

/-- The value of a hexadecimal digit. -/
def hexDigit? (c : Char) : Option Nat :=
  if c.isDigit then some (c.toNat - 48)
  else if 'a'.toNat ≤ c.toNat && c.toNat ≤ 'f'.toNat then some (c.toNat - 87)
  else if 'A'.toNat ≤ c.toNat && c.toNat ≤ 'F'.toNat then some (c.toNat - 55)
  else none

/-- The code unit of four hexadecimal digits. Fewer than four bytes are an early end. -/
def unit : Reader Nat := fun t =>
  if Text.byteSize t < 4 then .error .unfinished
  else
    match t with
    | a :: b :: c :: d :: rest =>
      match hexDigit? a, hexDigit? b, hexDigit? c, hexDigit? d with
      | some a, some b, some c, some d => .ok (((a * 16 + b) * 16 + c) * 16 + d, rest)
      | _, _, _, _ => .error .malformed
    | _ => .error .malformed

/-- Takes one character of those that are given. -/
def exactly (c : Char) : Reader Unit := do
  if (← char) = c then return () else fail .malformed

/-- The character of a code unit; the first half of a pair is followed by the second. -/
def character (u : Nat) : Reader Char := do
  if 0xDC00 ≤ u && u < 0xE000 then fail .malformed
  else if 0xD800 ≤ u && u < 0xDC00 then
    exactly '\\'
    exactly 'u'
    let low ← unit
    if 0xDC00 ≤ low && low < 0xE000 then
      return Char.ofNat (0x10000 + (u - 0xD800) * 0x400 + (low - 0xDC00))
    else fail .malformed
  else return Char.ofNat u

/-- The character after a backslash. A string that is only skipped may hold half a pair. -/
def escaped (skipping : Bool) : Reader Char := do
  match ← char with
  | '"' => return '"'
  | '\\' => return '\\'
  | '/' => return '/'
  | 'b' => return '\x08'
  | 'f' => return '\x0C'
  | 'n' => return '\n'
  | 'r' => return '\r'
  | 't' => return '\t'
  | 'u' => do
    let u ← unit
    -- a skipped unit may be half of a pair; any character stands for it
    if skipping then return ' ' else character u
  | _ => fail .malformed

/-- The characters of a string up to its closing quote, at most `fuel` of them. -/
def stringRest (skipping : Bool) : Nat → Reader Text
  | 0 => fail .unfinished
  | fuel + 1 => do
    match ← char with
    | '"' => return []
    | '\\' => do
      let c ← escaped skipping
      return c :: (← stringRest skipping fuel)
    | c => if c.toNat < 0x20 then fail .malformed else return c :: (← stringRest skipping fuel)

/-- A string after its opening quote. -/
def string (skipping : Bool) : Reader Text := do
  let n ← remaining
  stringRest skipping (n + 1)

/-! ### Numbers -/

/-- A number as far as its digits fit into 64 bits: its sign, the number that these digits write, the
power of ten that it is multiplied by, and whether it is written as an integer of 64 bits. -/
structure Number where
  negative : Bool
  significand : Nat
  exponent : Int
  isInteger : Bool

/-- Takes the digits at the beginning. -/
def digits : Reader Text := fun t => .ok (t.takeWhile Char.isDigit, t.dropWhile Char.isDigit)

/-- The number that digits write after those of another number. -/
def appendDigits (n : Nat) (ds : Text) : Nat := ds.foldl (fun n d => 10 * n + (d.toNat - 48)) n

/-- Digits of which there must be one. A number that is only skipped is malformed where it ends
early. -/
def someDigits (skipping : Bool) : Reader Text := do
  match ← digits with
  | [] => if !skipping && (← here?).isNone then fail .unfinished else fail .malformed
  | ds => return ds

/-- Takes the character if it is the next one. -/
def takeIf (test : Char → Bool) : Reader (Option Char)
  | [] => .ok (none, [])
  | c :: t => if test c then .ok (some c, t) else .ok (none, c :: t)

/-- The largest number of 64 bits. -/
def wordLimit : Nat := 0xFFFFFFFFFFFFFFFF

/-- Digits after those of another number, as many as fit into 64 bits, and those that are left. -/
def fitDigits (n : Nat) : Text → Nat × Text
  | [] => (n, [])
  | d :: ds =>
    let next := 10 * n + (d.toNat - 48)
    if wordLimit < next then (n, d :: ds) else fitDigits next ds

/-- The floating-point number nearest to a natural number: its first 53 binary digits, where a half
goes to the even neighbour. -/
def nearestFloat (n : Nat) : Nat :=
  let unit := Nat.pow 2 (Nat.log2 n - 52)
  let quotient := n / unit
  let rest := n % unit
  let up := unit < 2 * rest || unit = 2 * rest && quotient % 2 = 1
  (if up then quotient + 1 else quotient) * unit

/-- From here on a product rounds to more than the largest floating-point number. -/
def floatLimit : Nat := Nat.pow 2 1024 - Nat.pow 2 970

/-- The number lies beyond the range of floating-point numbers, as far as the product of the rounded
significand and the rounded power of ten shows. -/
def isTooLarge (n : Number) : Bool :=
  if n.significand = 0 || n.exponent < 0 then false
  else if 308 < n.exponent then true
  else floatLimit ≤ nearestFloat n.significand * nearestFloat (Nat.pow 10 n.exponent.toNat)

/-- A number. One that is not only skipped must lie in the range of floating-point numbers. Digits
that no longer fit count for the size of the number where they stand before the point. -/
def number (skipping : Bool) : Reader Number := do
  let negative := (← takeIf fun c => c = '-').isSome
  let whole ← someDigits skipping
  if whole.length ≠ 1 && whole.head? = some '0' then fail .malformed
  let point ← takeIf fun c => c = '.'
  let fraction ← if point.isSome then someDigits skipping else pure []
  let mark ← takeIf fun c => c = 'e' || c = 'E'
  let power : Int ←
    if mark.isSome then do
      let sign ← takeIf fun c => c = '+' || c = '-'
      let ds ← someDigits skipping
      pure (if sign = some '-' then -(appendDigits 0 ds : Int) else (appendDigits 0 ds : Int))
    else pure 0
  let (integer, cut) := fitDigits 0 whole
  let (significand, unused) := fitDigits integer fraction
  let n : Number :=
    ⟨negative, significand, power + cut.length - (fraction.length - unused.length : Nat),
      point.isNone && mark.isNone && cut.isEmpty⟩
  if !skipping && isTooLarge n then fail .malformed else return n

/-! ### Values of any kind -/

/-- Refuses a value of the wrong kind, once it is clear that it is a value. -/
def refuse {α : Type} : Reader α := do
  match ← next with
  | 'n' => do advance; word "ull".toList; fail .unsuitable
  | 't' => do advance; word "rue".toList; fail .unsuitable
  | 'f' => do advance; word "alse".toList; fail .unsuitable
  | '"' => do
    advance
    let _ ← string false
    fail .unsuitable
  | '[' | '\x7b' => fail .unsuitable
  | c =>
    if c = '-' || c.isDigit then do
      let _ ← number false
      fail .unsuitable
    else fail .malformed

/-- Looks for the next item of a list: there is none before the closing bracket, and a comma
stands between two. -/
def hasItem (isFirst : Bool) : Reader Bool := do
  let c ← next
  if c = ']' then return false
  else if isFirst then return true
  else if c = ',' then
    advance
    if (← next) = ']' then fail .malformed else return true
  else fail .malformed

/-- Looks for the next member of an object and takes the quote of its name. -/
def hasMember (isFirst : Bool) : Reader Bool := do
  let c ← next
  if c = '\x7d' then return false
  else
    let c ← if isFirst then pure c
      else if c = ',' then do advance; next
      else fail .malformed
    if c = '"' then do advance; return true else fail .malformed

mutual

/-- Takes a value of any kind, nested at most `fuel` deep. -/
def skipValue : Nat → Reader Unit
  | 0 => fail .unfinished
  | fuel + 1 => do
    match ← next with
    | 'n' => do advance; word "ull".toList
    | 't' => do advance; word "rue".toList
    | 'f' => do advance; word "alse".toList
    | '"' => do
      advance
      let _ ← string true
    | '[' => do advance; skipItems fuel true
    | '\x7b' => do advance; skipMembers fuel true
    | c =>
      if c = '-' || c.isDigit then do
        let _ ← number true
      else fail .malformed

/-- Takes the items of a list and its closing bracket. -/
def skipItems : Nat → Bool → Reader Unit
  | 0, _ => fail .unfinished
  | fuel + 1, isFirst => do
    if ← hasItem isFirst then
      skipValue fuel
      skipItems fuel false
    else advance

/-- Takes the members of an object and its closing brace. -/
def skipMembers : Nat → Bool → Reader Unit
  | 0, _ => fail .unfinished
  | fuel + 1, isFirst => do
    if ← hasMember isFirst then
      let _ ← string true
      expect ':'
      skipValue fuel
      skipMembers fuel false
    else advance

end

/-- Takes a value of any kind. -/
def skip : Reader Unit := do
  let n ← remaining
  skipValue (2 * n + 2)

end Reader

end ServletRoutes.Json
