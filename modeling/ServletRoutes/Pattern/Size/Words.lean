import ServletRoutes.Total
import ServletRoutes.Pattern.Size.Basic

/-!
# `ServletRoutes.Pattern.Size.Words`: the room for a choice between fixed texts

Fixed texts, as words of bytes, share what they begin with. They keep their order: where a word ends
those after it go on separately from those before it, which may have to be tried first.
-/

set_option autoImplicit false

namespace ServletRoutes.Pattern

/-- The bytes of a fixed text. -/
abbrev Word := List UInt8

namespace Word

/-- The words between those that are empty. -/
def cutAtEmpty : List Word → List (List Word)
  | [] => [[]]
  | [] :: words => [] :: cutAtEmpty words
  | word :: words =>
    match cutAtEmpty words with
    | [] => [[word]]
    | run :: runs => (word :: run) :: runs

/-- The words without their first bytes, by those bytes. -/
def byFirst (words : List Word) : List (List Word) :=
  (words.filterMap List.head?).eraseDups.map fun b =>
    words.filterMap fun word => if word.head? = some b then some word.tail else none

/-- The words but for empty ones right after an empty one at the beginning. -/
def trimmed : List Word → List Word
  | [] :: words => [] :: words.dropWhile List.isEmpty
  | words => words

/-- The states for going on with some words, as many bytes as the number says. -/
def goingOn : Nat → List Word → Size
  | 0, _ => {}
  | n + 1, words =>
    let sections := (cutAtEmpty (trimmed words)).map byFirst
    let filled := sections.filter (!·.isEmpty)
    -- an arrow for each section, and one more wherever a word ends
    let start := Size.branching (filled.length + (sections.length - 1))
    let readers := filled.map fun tails =>
      if tails.length = 1 then Size.plain 1 else .reading tails.length
    let others := sections.flatten.map fun tails =>
      if tails.all List.isEmpty then {} else goingOn n tails
    (readers ++ others).foldl Size.add start

end Word

/-- The machine of a choice between words: their states, and one where all of them end. -/
def Growth.ofWords (isBackward : Bool) (words : List Word) : Growth :=
  let words := if isBackward then words.map List.reverse else words
  fixed ((Size.plain 1).add (Word.goingOn (total List.length words) words))

end ServletRoutes.Pattern
