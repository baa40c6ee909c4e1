import ServletRoutes.Text.Basic
import ServletRoutes.Pattern.Expr

/-!
# `ServletRoutes.Pattern.Marked`: patterns with marks on what was read last

A pattern is laid out with one reader for each place where it reads a character. While a text is read,
a reader is marked if some match so far ends with the character that it has just read. Reading one
more character moves the marks on; so the work for a character is bounded by the pattern, whatever the
number of ways in which the text may match.
-/

set_option autoImplicit false

namespace ServletRoutes.Pattern

/-- At which spots a pattern is passed without a character being read. -/
inductive Pass
  | nowhere
  /-- Where the tests of spots in it say so. -/
  | somewhere
  | everywhere
deriving DecidableEq

namespace Pass

/-- One pattern and then the other is passed. -/
def and : Pass → Pass → Pass
  | nowhere, _ | _, nowhere => nowhere
  | everywhere, p => p
  | p, everywhere => p
  | somewhere, somewhere => somewhere

/-- One pattern or the other is passed. -/
def or : Pass → Pass → Pass
  | everywhere, _ | _, everywhere => everywhere
  | nowhere, p => p
  | p, nowhere => p
  | somewhere, somewhere => somewhere

end Pass

/-- A pattern with marks. What is asked for at every character is kept with the parts: whether there
is a mark in them, and where they are passed. -/
inductive Marked
  /-- Nothing at all. -/
  | empty
  /-- A character of a set; the mark says that one has just been read. -/
  | reader (set : CharSet) (mark : Bool)
  /-- A spot that passes a test. -/
  | spot (test : Spot)
  /-- One after the other. -/
  | seq (first second : Marked) (active : Bool) (pass : Pass)
  /-- One or the other. -/
  | either (left right : Marked) (active : Bool) (pass : Pass)
  /-- Once or more. -/
  | loop (body : Marked) (active : Bool) (pass : Pass)

namespace Marked

/-- There is a mark. -/
def active : Marked → Bool
  | empty | spot _ => false
  | reader _ mark => mark
  | seq _ _ active _ | either _ _ active _ | loop _ active _ => active

/-- Where the pattern is passed. -/
def pass : Marked → Pass
  | empty => .everywhere
  | reader _ _ => .nowhere
  | spot _ => .somewhere
  | seq _ _ _ pass | either _ _ _ pass | loop _ _ pass => pass

/-- One pattern after another. -/
def andThen (a b : Marked) : Marked := seq a b (a.active || b.active) (a.pass.and b.pass)

/-- One pattern or another. -/
def orElse (a b : Marked) : Marked := either a b (a.active || b.active) (a.pass.or b.pass)

/-- Neighbours joined in pairs. -/
def inPairs : List Marked → List Marked
  | a :: b :: rest => a.andThen b :: inPairs rest
  | parts => parts

/-- Patterns one after the other, joined in pairs again and again, so that none of them lies deep. -/
def inSequence (parts : List Marked) : Marked :=
  match Nat.repeat inPairs (Nat.log2 parts.length) parts with
  | [] => empty
  | a :: rest => rest.foldl andThen a

/-- A pattern once or more. -/
def repeated (a : Marked) : Marked := loop a a.active a.pass

/-- A pattern or nothing. -/
def optional (a : Marked) : Marked := a.orElse empty

/-- A pattern a fixed number of times. Both halves are the same value, so that it takes little room
as long as it has no marks. -/
def times (a : Marked) (n : Nat) : Marked :=
  if n = 0 then empty
  else if n = 1 then a
  else
    let half := a.times (n / 2)
    if n % 2 = 0 then half.andThen half else a.andThen (half.andThen half)
termination_by n

/-! ### Reading -/

/-- The pattern is passed at a spot, given by the tests that hold there. -/
def passed (holds : Spot → Bool) : Marked → Bool
  | empty => true
  | reader _ _ => false
  | spot test => holds test
  | seq first second _ pass =>
    match pass with
    | .nowhere => false
    | .everywhere => true
    | .somewhere => first.passed holds && second.passed holds
  | either left right _ pass =>
    match pass with
    | .nowhere => false
    | .everywhere => true
    | .somewhere => left.passed holds || right.passed holds
  | loop body _ pass =>
    match pass with
    | .nowhere => false
    | .everywhere => true
    | .somewhere => body.passed holds

/-- A match that has read a character ends at the spot. -/
def finished (holds : Spot → Bool) : Marked → Bool
  | empty | spot _ => false
  | reader _ mark => mark
  | seq first second active _ =>
    active && (second.finished holds || first.finished holds && second.passed holds)
  | either left right active _ => active && (left.finished holds || right.finished holds)
  | loop body active _ => active && body.finished holds

/-- The marks after one more character. `begins` says that a match may begin at the spot before it. -/
def read (holds : Spot → Bool) (c : Char) (begins : Bool) : Marked → Marked
  | empty => empty
  | spot test => spot test
  | reader set _ => reader set (begins && set.contains c)
  | seq first second active pass =>
    if begins || active then
      (first.read holds c begins).andThen
        (second.read holds c (begins && first.passed holds || first.finished holds))
    else seq first second active pass
  | either left right active pass =>
    if begins || active then (left.read holds c begins).orElse (right.read holds c begins)
    else either left right active pass
  | loop body active pass =>
    if begins || active then (body.read holds c (begins || body.finished holds)).repeated
    else loop body active pass

end Marked

end ServletRoutes.Pattern
