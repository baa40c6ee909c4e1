import Std.Data.HashMap
import ServletRoutes.Pattern.ByteSequence
import ServletRoutes.Pattern.Size.Basic

/-!
# `ServletRoutes.Pattern.Size.Set`: the room for a set of characters

Read forward, byte sequences of a set share the states for how they go on; read backward, those for
where they come from. A state is found again by its arrows in a table with a fixed number of slots, and
a new state takes the slot of an older one. So how many states there are depends also on where in the
machine they stand, as arrows lead to states by their numbers.
-/

set_option autoImplicit false

namespace ServletRoutes.Pattern

/-- A machine with the states that are found again, each in its slot under the numbers of its
arrows. -/
structure Shared where
  size : Size
  slots : Std.HashMap Nat (List Nat × Nat) := {}

namespace Shared

/-- The slot of some numbers, out of so many. -/
def slot (slots : UInt64) (key : List Nat) : Nat :=
  (key.foldl (fun h n => (h ^^^ UInt64.ofNat n) * 0x100000001B3) 0xCBF29CE484222325 % slots).toNat

/-- The state with the arrows of a key, and the machine with it. If it is not in its slot, it is new
and goes there. -/
def state (slots : UInt64) (size : Size) (key : List Nat) (m : Shared) : Nat × Shared :=
  let slot := slot slots key
  let found :=
    match m.slots[slot]? with
    | some (known, id) => if known = key then some id else none
    | none => none
  match found with
  | some id => (id, m)
  | none =>
    let id := m.size.states
    (id, ⟨m.size.add size, m.slots.insert slot (key, id)⟩)

/-- The number of slots for states that are shared forward. -/
def forwardSlots : UInt64 := 10000

/-- The number of slots for states that are shared backward. -/
def backwardSlots : UInt64 := 1000

/-- The state with some arrows under ranges of bytes, three numbers each. -/
def forward (key : List Nat) (m : Shared) : Nat × Shared :=
  m.state forwardSlots (.reading (key.length / 3)) key

/-- The arrows by which a tree goes on, with the states they lead to; `last` is the state after the
sequences. -/
def arrows (last : Nat) : ByteTree → Shared → List Nat × Shared
  | .done, m => ([], m)
  | .branch range .done next, m =>
    let (key, m) := arrows last next m
    (range.first :: range.last :: last :: key, m)
  | .branch range (.branch r below others) next, m =>
    let (key, m) := arrows last (.branch r below others) m
    let (id, m) := m.forward key
    let (key, m) := arrows last next m
    (range.first :: range.last :: id :: key, m)

/-- The state before a byte of a range that leads to a state, for each range in turn. -/
def backward (target : Nat) : ByteSequence → Shared → Shared
  | [], m => m
  | r :: rest, m =>
    let (id, m) := m.state backwardSlots (.plain 1) [target, r.first, r.last]
    backward id rest m

end Shared

namespace Growth

/-- The machine of a set that is read forward: a last state, and the states of its tree. -/
def ofTree (tree : ByteTree) : Growth :=
  ⟨fun s =>
    let (key, m) := Shared.arrows s.states tree ⟨s.add (.plain 1), {}⟩
    (m.forward key).2.size⟩

/-- The machine of a set that is read backward: a first state with an arrow for each sequence, a last
state, and the states between them. -/
def ofSequences (sequences : List ByteSequence) : Growth :=
  ⟨fun s =>
    let start := (s.add (.branching sequences.length)).add (.plain 1)
    (sequences.foldl (fun m r => Shared.backward (s.states + 1) r m) (Shared.mk start {})).size⟩

/-- The machine of a set of characters. The bytes of ASCII need two states only. -/
def ofSet (isBackward : Bool) (set : CharSet) : Growth :=
  if set.isAscii then fixed ((Size.plain 1).add (.reading set.ranges.length))
  else if isBackward then ofSequences set.byteSequences
  else ofTree (.ofSequences set.byteSequences)

end Growth

end ServletRoutes.Pattern
