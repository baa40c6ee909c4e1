import ServletRoutes.Pattern.Marked

/-!
# `ServletRoutes.Pattern.Matching`: the texts in which a pattern occurs

A text is read from left to right with the pattern laid out beside it. A match may begin at every
spot, and the pattern occurs as soon as one ends.
-/

set_option autoImplicit false

namespace ServletRoutes.Pattern

namespace Expr

/-- The parts of a pattern that follow one another, without marks, for texts with at most so many
spots. A run of more repetitions than there are spots stays on one of them some time, and it could as
well stay there longer or shorter; so their number is cut. -/
def unmarkedParts (spots : Nat) : Expr → List Marked
  | empty => []
  | word text => text.map fun c => .reader (.single c) false
  | one set _ => [.reader set false]
  | spot test => [.spot test]
  | seq first second => first.unmarkedParts spots ++ second.unmarkedParts spots
  | either left right =>
    [(Marked.inSequence (left.unmarkedParts spots)).orElse
      (Marked.inSequence (right.unmarkedParts spots))]
  | iterate body least most _ =>
    let body := Marked.inSequence (body.unmarkedParts spots)
    match most with
    | none =>
      if least = 0 then [body.repeated.optional]
      else [body.times (min (least - 1) spots), body.repeated]
    | some most => [body.times (min least spots), body.optional.times (min (most - least) spots)]
  | group body => body.unmarkedParts spots

/-- The pattern without marks. -/
def unmarked (spots : Nat) (e : Expr) : Marked := .inSequence (e.unmarkedParts spots)

end Expr

/-- A match ends at some spot from here on; `before` is the character before the first one. -/
def Marked.endsWithin (m : Marked) (before : Option Char) : Text → Bool
  | [] =>
    let holds := Spot.holds before none
    m.passed holds || m.finished holds
  | c :: rest =>
    let holds := Spot.holds before (some c)
    m.passed holds || m.finished holds || (m.read holds c true).endsWithin (some c) rest

/-- Some part of the text matches. -/
def Expr.occursIn (e : Expr) (text : Text) : Bool :=
  (e.unmarked (text.length + 1)).endsWithin none text

end ServletRoutes.Pattern
