/-!
# `ServletRoutes.Pattern.Size.Basic`: the room that a machine takes

The machine that searches for a pattern consists of states with arrows between them. It is built part
after part, and a part is known by what it adds to a machine that has grown so far. Nothing is added
to one that is too large already.
-/

set_option autoImplicit false

namespace ServletRoutes.Pattern

/-- How large a machine is. -/
structure Size where
  states : Nat := 0
  /-- The bytes that arrows take, where there may be several from one state. -/
  arrows : Nat := 0

namespace Size

/-- The most bytes that a machine may take. -/
def limit : Nat := 0xA00000

/-- The bytes that a machine takes. -/
def bytes (s : Size) : Nat := 32 * s.states + s.arrows

/-- The machine is not too large. -/
def fits (s : Size) : Bool := s.bytes ≤ limit

/-- Both together. -/
def add (s t : Size) : Size := ⟨s.states + t.states, s.arrows + t.arrows⟩

/-- States with one arrow each, which takes no room of its own. -/
def plain (states : Nat) : Size := ⟨states, 0⟩

/-- A state with some arrows under ranges of bytes. -/
def reading (arrows : Nat) : Size := ⟨1, 8 * arrows⟩

/-- A state with some arrows that read nothing. -/
def branching (arrows : Nat) : Size := ⟨1, 4 * arrows⟩

end Size

/-- A part of a machine, by what it makes of the size of a machine it is added to. -/
structure Growth where
  onto : Size → Size

namespace Growth

/-- A part that takes the same room wherever it is. -/
def fixed (size : Size) : Growth := ⟨fun s => s.add size⟩

/-- One part and then another. -/
def andThen (a b : Growth) : Growth :=
  ⟨fun s =>
    let s := a.onto s
    if s.fits then b.onto s else s⟩

instance : Append Growth := ⟨andThen⟩

/-- A number of copies of a part, onto a machine. -/
def copiesOnto (a : Growth) : Nat → Size → Size
  | 0, s => s
  | n + 1, s => if s.fits then copiesOnto a n (a.onto s) else s

/-- A number of copies of a part. -/
def copies (a : Growth) (n : Nat) : Growth := ⟨a.copiesOnto n⟩

/-- The parts one after the other. -/
def all : List Growth → Growth
  | [] => fixed {}
  | a :: rest => a ++ all rest

end Growth

end ServletRoutes.Pattern
