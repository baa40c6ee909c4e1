import ServletRoutes.Pattern.CharClass
import ServletRoutes.Pattern.Size

/-!
# `ServletRoutes.Pattern.Reading`: patterns from their written form

`read` gives the meaning of a written pattern, or says why there is none. The written form is read
from left to right: groups nest, flags hold from where they are set to the end of their group, and an
operator repeats the piece before it. Groups, classes, repetitions, sequences and choices must not
nest too deep, and the pattern must not take too much room.
-/

set_option autoImplicit false

namespace ServletRoutes.Pattern

/-! ### Groups -/

/-- What a group begins with, after its parenthesis. -/
inductive GroupHead
  /-- Flags for the rest of the surrounding group. -/
  | directive (flags : Flags) (rest : Text)
  /-- A group, remembered or not, with its flags and the names of groups seen so far. -/
  | group (remembered : Bool) (flags : Flags) (names : List Text) (rest : Text)

/-- The flags up to a colon or a closing parenthesis. A flag stands once, and so does the hyphen
that turns off those after it; at least one follows it. -/
def flagItems? (flags : Flags) (seen : List Char) (afterHyphen : Bool) :
    Text → Option (Flags × List Char × Text)
  | [] => none
  | c :: t =>
    if c = ':' || c = ')' then if afterHyphen then none else some (flags, seen, c :: t)
    else if seen.contains c then none
    else if c = '-' then flagItems? flags (c :: seen) true t
    else (flags.set? c (!seen.contains '-')).bind fun flags => flagItems? flags (c :: seen) false t

/-- A character may stand in the name of a group. -/
def isNameChar (first : Bool) (c : Char) : Bool :=
  c = '_' ||
    if first then Unicode.isAlphabetic c
    else c = '.' || c = '[' || c = ']' || Unicode.isAlphanumeric c

/-- The name of a group up to its closing bracket. -/
def groupName? (first : Bool) : Text → Option (Text × Text)
  | [] => none
  | c :: t =>
    if c = '>' then some ([], t)
    else if isNameChar first c then
      (groupName? false t).map fun (name, rest) => (c :: name, rest)
    else none

/-- A named group: the name is not empty and not taken. -/
def namedGroup? (flags : Flags) (names : List Text) (t : Text) : Option GroupHead :=
  match groupName? true t with
  | some (name, rest) =>
    if name = [] || names.contains name then none else some (.group true flags (name :: names) rest)
  | none => none

/-- The beginning of a group. Tests of what stands around a group are refused. -/
def groupHead? (flags : Flags) (names : List Text) : Text → Option GroupHead
  | '?' :: '=' :: _ | '?' :: '!' :: _ | '?' :: '<' :: '=' :: _ | '?' :: '<' :: '!' :: _ => none
  | '?' :: 'P' :: '<' :: t | '?' :: '<' :: t => namedGroup? flags names t
  | '?' :: t =>
    match flagItems? flags [] false t with
    | some (inner, _, ':' :: rest) => some (.group false inner names rest)
    -- flags without a group hold for the rest of the group around them, and there has to be one
    | some (inner, seen, ')' :: rest) => if seen = [] then none else some (.directive inner rest)
    | _ => none
  | t => some (.group true flags names t)

/-! ### Parts -/

/-- What has been read at one place, with the depth of what nests in it. -/
structure Part where
  /-- The meaning; flags have none. -/
  expr : Option Expr
  depth : Nat

/-- A piece without anything in it. -/
def Part.leaf (e : Expr) : Part := ⟨some e, 0⟩

/-- Flags. -/
def Part.flags : Part := ⟨none, 0⟩

/-- The depth of parts that stand side by side, which are a level of their own if there is more than
one of them. -/
def levelOf (parts : List Part) : Nat :=
  let deepest := parts.foldl (fun d p => max d p.depth) 0
  if 2 ≤ parts.length then deepest + 1 else deepest

/-- The parts read so far in reverse order, as one. -/
def sequence (parts : List Part) : Part :=
  ⟨some (Expr.seqOf (parts.reverse.filterMap (·.expr))), levelOf parts⟩

/-- The choice between the finished branches, in reverse order, and the last one. -/
def choice (parts : List Part) (branches : List Part) : Part :=
  let branches := sequence parts :: branches
  ⟨some (Expr.eitherOf (branches.reverse.filterMap (·.expr))), levelOf branches⟩

/-! ### Repetition -/

/-- Repeats the last piece; there must be one, and flags are none. -/
def repeatLast? (least : Nat) (most : Option Nat) (lazy : Bool) : List Part → Option (List Part)
  | ⟨some e, depth⟩ :: parts => some (⟨some (e.times least most lazy), depth + 1⟩ :: parts)
  | _ => none

/-- The mark of a lazy repetition, where there is one. -/
def lazyMark : Text → Bool × Text
  | '?' :: t => (true, t)
  | t => (false, t)

/-- The digits of a count. -/
def countDigits (flags : Flags) : Nat → Text → Text × Text
  | n + 1, c :: t =>
    if c.isDigit then
      let (digits, rest) := countDigits flags n (flags.skip t)
      (c :: digits, rest)
    else ([], c :: t)
  | _, t => ([], t)

/-- A count of 32 bits with blanks around it. -/
def count? (flags : Flags) (t : Text) : Option (Nat × Text) :=
  let t := t.dropWhile Unicode.isBlank
  let (digits, rest) := countDigits flags t.length t
  let value := digits.foldl (fun n d => 10 * n + (d.toNat - 48)) 0
  if digits = [] || 0x100000000 ≤ value then none
  else some (value, flags.skip (rest.dropWhile Unicode.isBlank))

/-- A count after its opening brace: exactly, at least, or between two numbers of times. The text after
the closing brace is left. -/
def counted? (flags : Flags) (t : Text) : Option (Nat × Option Nat × Text) := do
  let (least, t) ← count? flags (flags.skip t)
  let (most, t) ←
    match t with
    | ',' :: t =>
      match flags.skip t with
      | '\x7d' :: t => some (none, '\x7d' :: t)
      | t => (count? flags t).map fun (most, t) => (some most, t)
    | t => some (some least, t)
  match t with
  | '\x7d' :: rest =>
    if most.any (· < least) then none else some (least, most, flags.skip rest)
  | _ => none

/-! ### Sequences and choices -/

/-- One character of a set that was written under some flags. -/
def Flags.ofSet (flags : Flags) (set : CharSet) : Expr := .ofSet set (!flags.unicode)

/-- What a piece outside a class means. -/
def Piece.expr? (flags : Flags) : Piece → Option Expr
  | literal c => some (flags.ofSet (flags.foldedSet (.single c)))
  | byte c =>
    if flags.unicode || c.toNat < 128 then some (flags.ofSet (flags.foldedSet (.single c))) else none
  | charSet set => some (flags.ofSet set)
  | spot test => some (.spot test)

/-- A character outside a class that is no operator. -/
def primitive? (flags : Flags) : Text → Option (Expr × Text)
  | [] => none
  | '\\' :: t => do
    let (piece, rest) ← escape? flags t
    return (← piece.expr? flags, rest)
  | '.' :: t => flags.dot?.map fun set => (flags.ofSet set, t)
  | '^' :: t => some (.spot flags.atStart, t)
  | '$' :: t => some (.spot flags.atEnd, t)
  | c :: t => ((Piece.literal c).expr? flags).map fun e => (e, t)

/-- Reads up to the end of the text or the closing parenthesis of the group; gives what was read, the
group names seen, and the rest. The parts and branches read so far are passed along in reverse. -/
def readGroup? : Nat → Flags → List Text → List Part → List Part → Text →
    Option (Part × List Text × Text)
  | 0, _, _, _, _, _ => none
  | n + 1, flags, names, parts, branches, t =>
    let push (part : Part) (rest : Text) := readGroup? n flags names (part :: parts) branches rest
    let repeated (least : Nat) (most : Option Nat) (rest : Text) :=
      let (isMarked, rest) := lazyMark rest
      match repeatLast? least most (isMarked != flags.swapped) parts with
      | some parts => readGroup? n flags names parts branches rest
      | none => none
    match flags.skip t with
    | [] => some (choice parts branches, names, [])
    | ')' :: rest => some (choice parts branches, names, ')' :: rest)
    | '|' :: rest => readGroup? n flags names [] (sequence parts :: branches) rest
    | '(' :: rest =>
      match groupHead? flags names (flags.skip rest) with
      | none => none
      -- an operator right after flags finds nothing to repeat
      | some (.directive flags rest) => readGroup? n flags names (.flags :: parts) branches rest
      | some (.group remembered inner names rest) =>
        match readGroup? n inner names [] [] rest with
        | some (⟨some e, depth⟩, names, ')' :: rest) =>
          let part : Part := ⟨some (if remembered then .group e else e), depth + 1⟩
          readGroup? n flags names (part :: parts) branches rest
        | _ => none
    | '[' :: rest =>
      match charClass? flags rest with
      | some (part, rest) => push ⟨some (flags.ofSet part.set), part.depth⟩ rest
      | none => none
    | '?' :: rest => repeated 0 (some 1) rest
    | '*' :: rest => repeated 0 none rest
    | '+' :: rest => repeated 1 none rest
    | '\x7b' :: rest =>
      match counted? flags rest with
      | some (least, most, rest) => repeated least most rest
      | none => none
    | t =>
      match primitive? flags t with
      | some (e, rest) => push (.leaf e) rest
      | none => none

/-! ### Whole patterns -/

/-- How deep the parts of a pattern may nest. -/
def depthLimit : Nat := 250

/-- Why a written pattern has no meaning. -/
inductive Fault
  /-- It breaks the rules of writing, or nests too deep. -/
  | malformed
  /-- It would take too much room. -/
  | tooLarge
deriving DecidableEq

/-- The meaning of a written pattern. -/
def read (t : Text) : Except Fault Expr :=
  match readGroup? (t.length + 1) {} [] [] [] t with
  | some (⟨some e, depth⟩, _, []) =>
    if depthLimit < depth then .error .malformed
    else if e.fits then .ok e
    else .error .tooLarge
  | _ => .error .malformed

end ServletRoutes.Pattern
