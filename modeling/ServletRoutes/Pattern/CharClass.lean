import ServletRoutes.Pattern.Escape

/-!
# `ServletRoutes.Pattern.CharClass`: classes in square brackets

A class lists characters, ranges, named ASCII classes and nested classes. `&&`, `--` and `~~`
combine what stands before them with what follows, from left to right. A leading `^` takes the
complement; leading hyphens, or a leading bracket, stand for themselves.
-/

set_option autoImplicit false

namespace ServletRoutes.Pattern

/-- The operators between the parts of a class. -/
inductive SetOperator
  | intersection
  | difference
  | symmetricDifference

/-- What an operator makes of two sets. -/
def SetOperator.apply : SetOperator → CharSet → CharSet → CharSet
  | intersection => .inter
  | difference => .diff
  | symmetricDifference => .symmDiff

/-- The named ASCII classes. -/
def asciiClasses : List (String × List Range) := [
  ("alnum", [⟨0x30, 0x39⟩, ⟨0x41, 0x5A⟩, ⟨0x61, 0x7A⟩]),
  ("alpha", [⟨0x41, 0x5A⟩, ⟨0x61, 0x7A⟩]),
  ("ascii", [⟨0, 0x7F⟩]),
  ("blank", [⟨0x9, 0x9⟩, ⟨0x20, 0x20⟩]),
  ("cntrl", [⟨0, 0x1F⟩, ⟨0x7F, 0x7F⟩]),
  ("digit", [⟨0x30, 0x39⟩]),
  ("graph", [⟨0x21, 0x7E⟩]),
  ("lower", [⟨0x61, 0x7A⟩]),
  ("print", [⟨0x20, 0x7E⟩]),
  ("punct", [⟨0x21, 0x2F⟩, ⟨0x3A, 0x40⟩, ⟨0x5B, 0x60⟩, ⟨0x7B, 0x7E⟩]),
  ("space", [⟨0x9, 0xD⟩, ⟨0x20, 0x20⟩]),
  ("upper", [⟨0x41, 0x5A⟩]),
  ("word", [⟨0x30, 0x39⟩, ⟨0x41, 0x5A⟩, ⟨0x5F, 0x5F⟩, ⟨0x61, 0x7A⟩]),
  ("xdigit", [⟨0x30, 0x39⟩, ⟨0x41, 0x46⟩, ⟨0x61, 0x66⟩])]

/-- A named ASCII class after its opening bracket, and whether it is negated. -/
def asciiClass? : Text → Option (Bool × CharSet × Text)
  | ':' :: t =>
    let (negated, t) :=
      match t with
      | '^' :: t => (true, t)
      | t => (false, t)
    match t.span (· ≠ ':') with
    | (name, ':' :: ']' :: rest) =>
      (asciiClasses.find? fun (n, _) => n.toList = name).map fun (_, ranges) =>
        (negated, .ofRanges ranges, rest)
    | _ => none
  | _ => none

/-- A character or an escape inside a class. -/
def classPiece? (flags : Flags) : Text → Option (Piece × Text)
  | [] => none
  | '\\' :: t => escape? flags t
  | c :: t => some (.literal c, t)

/-- The character that a piece stands for, as one end of a range. -/
def Piece.char? (flags : Flags) : Piece → Option Char
  | literal c | byte c => if flags.unicode || c.toNat < 128 then some c else none
  | charSet _ | spot _ => none

/-- The set that a piece stands for. -/
def Piece.set? (flags : Flags) : Piece → Option CharSet
  | charSet set => some set
  | piece => (piece.char? flags).map CharSet.single

/-- A single piece, or a range where a hyphen follows that does not stand for itself. -/
def classRange? (flags : Flags) (t : Text) : Option (CharSet × Text) := do
  let (first, t) ← classPiece? flags t
  match flags.skip t with
  | [] => none
  | '-' :: u =>
    if flags.peek? u = some ']' || flags.peek? u = some '-' then
      return (← first.set? flags, '-' :: u)
    else
      let (last, rest) ← classPiece? flags (flags.skip u)
      let low ← first.char? flags
      let high ← last.char? flags
      if low.toNat ≤ high.toNat then return (.between low.toNat high.toNat, rest) else none
  | t => return (← first.set? flags, t)

/-! ### What has been read of a class -/

/-- A set with the depth of the brackets and operators it was read from. -/
structure Nested where
  set : CharSet
  depth : Nat

/-- The set in brackets, or another part of a class, within the union of such parts. -/
structure Union where
  set : CharSet := .empty
  /-- The number of parts. -/
  parts : Nat := 0
  /-- The depth of the deepest part. -/
  deepest : Nat := 0

/-- One more part. -/
def Union.insert (u : Union) (part : Nested) : Union :=
  ⟨u.set.union part.set, u.parts + 1, max u.deepest part.depth⟩

/-- The union as a whole, which is a level of its own if it has more than one part. -/
def Union.nested (u : Union) : Nested := ⟨u.set, if 2 ≤ u.parts then u.deepest + 1 else u.deepest⟩

/-- Hyphens at the beginning of a class, which stand for themselves: how many, and what follows. -/
def leadingHyphens (flags : Flags) : Nat → Text → Nat × Text
  | n + 1, '-' :: t =>
    let (count, rest) := leadingHyphens flags n (flags.skip t)
    (count + 1, rest)
  | _, t => (0, t)

/-- The beginning of a class after its bracket: whether it is negated, and the leading characters
that stand for themselves. -/
def classHead (flags : Flags) (t : Text) : Bool × Union × Text :=
  let (negated, t) :=
    match flags.skip t with
    | '^' :: t => (true, flags.skip t)
    | t => (false, t)
  match leadingHyphens flags t.length t with
  | (0, ']' :: t) => (negated, ⟨.single ']', 1, 0⟩, flags.skip t)
  | (0, t) => (negated, {}, t)
  | (count, t) => (negated, ⟨.single '-', count, 0⟩, t)

/-- What stands before an operator or the end of a class. -/
def combined (flags : Flags) (pending : Option (SetOperator × Nested)) (u : Union) : Nested :=
  match pending with
  | none => u.nested
  | some (operator, left) =>
    ⟨operator.apply (flags.foldedSet left.set) (flags.foldedSet u.set),
      max left.depth u.nested.depth + 1⟩

/-- The rest of a class up to its closing bracket. The set of a class is closed under change of
case before its complement is taken. -/
def classRest? (flags : Flags) : Nat → Option (SetOperator × Nested) → Union → Text →
    Option (Nested × Text)
  | 0, _, _, _ => none
  | n + 1, pending, u, t =>
    let continueWith (negated : Bool) (part : Nested) (rest : Text) :=
      (flags.signed? negated (flags.foldedSet part.set)).bind fun set =>
        classRest? flags n pending (u.insert ⟨set, part.depth⟩) rest
    let operator (op : SetOperator) (rest : Text) :=
      classRest? flags n (some (op, combined flags pending u)) {} rest
    match flags.skip t with
    | [] => none
    | ']' :: rest => some (combined flags pending u, rest)
    | '[' :: rest =>
      match asciiClass? rest with
      | some (negated, set, rest) => continueWith negated ⟨set, 0⟩ rest
      | none =>
        -- what only looks like a named class is a nested one with these characters
        let (negated, start, rest) := classHead flags rest
        match classRest? flags n none start rest with
        | some (part, rest) => continueWith negated ⟨part.set, part.depth + 1⟩ rest
        | none => none
    | '&' :: '&' :: rest => operator .intersection rest
    | '-' :: '-' :: rest => operator .difference rest
    | '~' :: '~' :: rest => operator .symmetricDifference rest
    | t =>
      match classRange? flags t with
      | some (set, rest) => classRest? flags n pending (u.insert ⟨set, 0⟩) rest
      | none => none

/-- A class after its opening bracket. -/
def charClass? (flags : Flags) (t : Text) : Option (Nested × Text) := do
  let (negated, start, t) := classHead flags t
  let (part, rest) ← classRest? flags (t.length + 1) none start t
  let set ← flags.signed? negated (flags.foldedSet part.set)
  return (⟨set, part.depth + 1⟩, rest)

end ServletRoutes.Pattern
