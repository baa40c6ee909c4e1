import ServletRoutes.Unicode.CaseFold
import ServletRoutes.Unicode.Class

/-!
# `ServletRoutes.Pattern.CharSet`: sets of characters

A set is kept as ranges of code points in ascending order with gaps between them, so that a set has
one form. Union, complement and the other operations work on the ranges.
-/

set_option autoImplicit false

namespace ServletRoutes.Pattern

/-- The code points from `first` to `last`. -/
structure Range where
  first : Nat
  last : Nat
deriving DecidableEq

/-- The code point lies in the range. -/
def Range.contains (r : Range) (n : Nat) : Bool := decide (r.first ≤ n) && decide (n ≤ r.last)

/-- A set of characters, as ascending ranges with gaps between them. -/
structure CharSet where
  ranges : List Range
deriving DecidableEq

namespace CharSet

/-- The largest code point. -/
def lastCode : Nat := 0x10FFFF

/-- The code point belongs to the set. -/
def has (s : CharSet) (n : Nat) : Bool := s.ranges.any fun r => r.contains n

/-- The character belongs to the set. -/
def contains (s : CharSet) (c : Char) : Bool := s.has c.toNat

/-- The empty set. -/
def empty : CharSet := ⟨[]⟩

/-- The code points from `first` to `last`. -/
def between (first last : Nat) : CharSet := ⟨[⟨first, last⟩]⟩

/-- All characters. -/
def full : CharSet := between 0 lastCode

/-- One character. -/
def single (c : Char) : CharSet := between c.toNat c.toNat

/-- A range before ascending ranges; what it touches becomes part of it. -/
def absorb (r : Range) : List Range → List Range
  | [] => [r]
  | next :: rest =>
    if next.first ≤ r.last + 1 then absorb ⟨r.first, max r.last next.last⟩ rest
    else r :: next :: rest

/-- Joins what touches in ranges that are sorted by where they begin. -/
def joined : List Range → List Range
  | [] => []
  | r :: rest => absorb r (joined rest)

/-- The set that ranges in any order make up. -/
def ofRanges (ranges : List Range) : CharSet :=
  ⟨joined (ranges.mergeSort fun a b => decide (a.first ≤ b.first))⟩

/-- What belongs to one or the other. -/
def union (a b : CharSet) : CharSet :=
  ⟨joined (a.ranges.merge b.ranges fun r t => decide (r.first ≤ t.first))⟩

/-- The gaps between ascending ranges, from a code point on. -/
def gaps (start : Nat) : List Range → List Range
  | [] => if start ≤ lastCode then [⟨start, lastCode⟩] else []
  | r :: rest =>
    if start < r.first then ⟨start, r.first - 1⟩ :: gaps (r.last + 1) rest
    else gaps (max start (r.last + 1)) rest

/-- What does not belong to the set. -/
def complement (s : CharSet) : CharSet := ⟨gaps 0 s.ranges⟩

/-- What belongs to both. -/
def inter (a b : CharSet) : CharSet := (a.complement.union b.complement).complement

/-- What belongs to the first and not to the second. -/
def diff (a b : CharSet) : CharSet := (a.complement.union b).complement

/-- What belongs to one of the two and not to both. -/
def symmDiff (a b : CharSet) : CharSet := (a.diff b).union (b.diff a)

/-- The only character of the set, if there is just one. -/
def only? (s : CharSet) : Option Char :=
  match s.ranges with
  | [r] => if r.first = r.last then some (Char.ofNat r.first) else none
  | _ => none

/-- All characters of the set are ASCII. -/
def isAscii (s : CharSet) : Bool := s.ranges.all fun r => r.last < 0x80

/-! ### Classes -/

/-- The ranges of a run. -/
def ofRun (r : Unicode.Run) : List Range :=
  if r.step = 1 then [⟨r.first, r.last⟩]
  else (List.range ((r.last - r.first) / r.step + 1)).map fun i =>
    ⟨r.first + i * r.step, r.first + i * r.step⟩

/-- The characters of a table. -/
def ofRuns (runs : List Unicode.Run) : CharSet := ofRanges (runs.flatMap ofRun)

/-- The characters of a class. -/
def ofClass (k : Unicode.Class) : CharSet :=
  if k.minus.isEmpty then ofRuns k.plus.flatten
  else (ofRuns k.plus.flatten).diff (ofRuns k.minus.flatten)

/-! ### Change of case -/

/-- What is listed under code points in ascending ranges; the list is in ascending order too. -/
def listed : List Range → List (Nat × Nat) → List Nat
  | [], _ | _, [] => []
  | r :: ranges, (n, m) :: pairs =>
    if n < r.first then listed (r :: ranges) pairs
    else if n ≤ r.last then m :: listed (r :: ranges) pairs
    else listed ranges ((n, m) :: pairs)
termination_by ranges pairs => ranges.length + pairs.length

/-- The set of some code points. -/
def ofCodes (codes : List Nat) : CharSet := ofRanges (codes.map fun n => ⟨n, n⟩)

/-- The set with all characters that fold like one of its own. -/
def closed (s : CharSet) : CharSet :=
  let folded := s.union (ofCodes (listed s.ranges Unicode.foldPairs))
  folded.union (ofCodes (listed folded.ranges Unicode.unfoldPairs))

/-- The set with the other form of each of its ASCII letters. -/
def closedAscii (s : CharSet) : CharSet :=
  let letters := (List.range 26).filter fun i => s.has (0x41 + i) || s.has (0x61 + i)
  ofRanges (s.ranges ++ letters.flatMap fun i => [⟨0x41 + i, 0x41 + i⟩, ⟨0x61 + i, 0x61 + i⟩])

end CharSet

end ServletRoutes.Pattern
