import ServletRoutes.Pattern.CharSet

/-!
# `ServletRoutes.Pattern.ByteSequence`: sets of characters as sequences of bytes

In UTF-8 the characters of a set are some sequences of ranges of bytes: whatever takes one byte of each
range in turn encodes a character of the set. `ByteTree` brings together what the sequences begin with
in common.
-/

set_option autoImplicit false

namespace ServletRoutes.Pattern

/-- A sequence of ranges of bytes: one byte of each range in turn. -/
abbrev ByteSequence := List Range

/-- The sequences for the numbers from `low` to `high`, written in base 64 with a first digit and `n`
more. `lead` is added to the first digit, and 128 to the others. -/
def digitSequences (lead : Nat) : Nat → Nat → Nat → List ByteSequence
  | 0, low, high => [[⟨lead + low, lead + high⟩]]
  | n + 1, low, high =>
    let unit := Nat.pow 64 (n + 1)
    let block := fun (first last : Nat) (rest : List ByteSequence) =>
      rest.map (Range.mk (lead + first) (lead + last) :: ·)
    if low / unit = high / unit then
      block (low / unit) (low / unit) (digitSequences 128 n (low % unit) (high % unit))
    else
      -- a block that is not covered as a whole stands at either end
      let first := if low % unit = 0 then low / unit else low / unit + 1
      let last := if high % unit = unit - 1 then high / unit + 1 else high / unit
      (if first = low / unit then []
        else block (low / unit) (low / unit) (digitSequences 128 n (low % unit) (unit - 1))) ++
      (if first < last then
        block first (last - 1) [List.replicate (n + 1) (Range.mk 0x80 0xBF)] else []) ++
      (if last = high / unit + 1 then []
        else block (high / unit) (high / unit) (digitSequences 128 n 0 (high % unit)))

/-- The code points whose encodings have one length and no surrogates among them: the number of bytes
after the first, what is added to the first, and the range. -/
def encodings : List (Nat × Nat × Range) := [
  (0, 0, ⟨0, 0x7F⟩), (1, 0xC0, ⟨0x80, 0x7FF⟩), (2, 0xE0, ⟨0x800, 0xD7FF⟩),
  (2, 0xE0, ⟨0xE000, 0xFFFF⟩), (3, 0xF0, ⟨0x10000, 0x10FFFF⟩)]

/-- The byte sequences of a set in ascending order. -/
def CharSet.byteSequences (s : CharSet) : List ByteSequence :=
  s.ranges.flatMap fun r => encodings.flatMap fun (n, lead, part) =>
    let low := max r.first part.first
    let high := min r.last part.last
    if low ≤ high then digitSequences lead n low high else []

/-- Sequences by what they begin with in common. -/
inductive ByteTree
  /-- Nothing follows. -/
  | done
  /-- A byte of a range and what follows it, or one of the ranges after it. -/
  | branch (range : Range) (below next : ByteTree)

namespace ByteTree

/-- One more sequence, before those that are there. It shares its beginning with the first of them
only, for others are apart from it where sequences ascend. -/
def insert : ByteSequence → ByteTree → ByteTree
  | [], tree => tree
  | r :: rest, done => branch r (insert rest done) done
  | r :: rest, branch range below next =>
    if r = range then branch range (insert rest below) next
    else branch r (insert rest done) (branch range below next)

/-- The tree of ascending sequences. -/
def ofSequences (sequences : List ByteSequence) : ByteTree := sequences.foldr insert done

end ByteTree

end ServletRoutes.Pattern
