import ServletRoutes.Text.Basic
import ServletRoutes.Pattern.CharSet

/-!
# `ServletRoutes.Pattern.Expr`: patterns

A pattern is built from fixed texts, sets of characters, tests of the spot between two characters,
sequence, choice, repetition and remembered groups. The functions that put patterns together leave out
what matches nothing but the empty text, join fixed texts, and take the choice between single
characters for a set of them.
-/

set_option autoImplicit false

namespace ServletRoutes.Pattern

/-! ### Spots -/

/-- Tests of a spot by whether there is a word character on either side. -/
inductive WordSpot
  /-- On one side only. -/
  | boundary
  /-- On both sides or on none. -/
  | inside
  /-- On the right only. -/
  | start
  /-- On the left only. -/
  | finish
  /-- Not on the left. -/
  | startHalf
  /-- Not on the right. -/
  | finishHalf
deriving DecidableEq

/-- Tests of the spot between two characters. -/
inductive Spot
  /-- The beginning of the text. -/
  | textStart
  /-- The end of the text. -/
  | textEnd
  /-- The beginning of a line; carriage returns may end lines too. -/
  | lineStart (crlf : Bool)
  /-- The end of a line. -/
  | lineEnd (crlf : Bool)
  /-- A place in or between words; word characters may be those of Unicode or of ASCII only. -/
  | word (unicode : Bool) (kind : WordSpot)
deriving DecidableEq

/-- The test by the two sides. -/
def WordSpot.holds : WordSpot → Bool → Bool → Bool
  | boundary, before, after => before != after
  | inside, before, after => before == after
  | start, before, after => !before && after
  | finish, before, after => before && !after
  | startHalf, before, _ => !before
  | finishHalf, _, after => !after

/-- Word characters, those of Unicode or of ASCII only. -/
def isWord (unicode : Bool) (c : Char) : Bool :=
  if unicode then Unicode.Class.word.contains c else c.isAlphanum || c = '_'

/-- The test of a spot by the characters before and after it; there is none at the ends of the
text. A carriage return and the line feed after it end a line together. -/
def Spot.holds (before after : Option Char) : Spot → Bool
  | textStart => before = none
  | textEnd => after = none
  | lineStart false => before = none || before = some '\n'
  | lineStart true => before = none || before = some '\n' || before = some '\r' && after ≠ some '\n'
  | lineEnd false => after = none || after = some '\n'
  | lineEnd true => after = none || after = some '\r' || after = some '\n' && before ≠ some '\r'
  | word unicode kind => kind.holds (before.any (isWord unicode)) (after.any (isWord unicode))

/-! ### Patterns -/

/-- What a pattern means. -/
inductive Expr
  /-- Nothing at all. -/
  | empty
  /-- A fixed text, which is not empty. -/
  | word (text : Text)
  /-- One character of a set, which was given by characters or by bytes. -/
  | one (set : CharSet) (byBytes : Bool)
  /-- A spot that passes a test. -/
  | spot (test : Spot)
  /-- One after the other. -/
  | seq (first second : Expr)
  /-- One or the other. -/
  | either (left right : Expr)
  /-- At least `least` times and, if there is a bound, at most `most` times; as few times as possible
  if it is lazy. -/
  | iterate (body : Expr) (least : Nat) (most : Option Nat) (lazy : Bool)
  /-- A group whose place in the text is remembered. -/
  | group (body : Expr)
deriving DecidableEq

namespace Expr

/-! ### What the form of a pattern shows -/

/-- The pattern tests spots only, so that it matches no character. -/
def isWidthless : Expr → Bool
  | empty | spot _ => true
  | word _ | one _ _ => false
  | seq first second => first.isWidthless && second.isWidthless
  | either left right => left.isWidthless && right.isWidthless
  | iterate body _ _ _ | group body => body.isWidthless

/-- The length of the shortest matches, if none of the sets in the pattern is empty. -/
def shortest? : Expr → Option Nat
  | empty | spot _ => some 0
  | word text => some text.length
  | one set _ => if set.ranges.isEmpty then none else some 1
  | seq first second =>
    match first.shortest?, second.shortest? with
    | some n, some m => some (n + m)
    | _, _ => none
  | either left right =>
    match left.shortest?, right.shortest? with
    | some n, some m => some (min n m)
    | _, _ => none
  | iterate body least _ _ => body.shortest?.map (least * ·)
  | group body => body.shortest?

/-- Every match begins with a spot that passes the test. -/
def beginsWith (test : Spot) : Expr → Bool
  | empty | word _ | one _ _ => false
  | spot t => t = test
  | seq first second => first.beginsWith test || first.isWidthless && second.beginsWith test
  | either left right => left.beginsWith test && right.beginsWith test
  | iterate body least _ _ => least ≠ 0 && body.beginsWith test
  | group body => body.beginsWith test

/-- Every match ends with a spot that passes the test. -/
def endsWith (test : Spot) : Expr → Bool
  | empty | word _ | one _ _ => false
  | spot t => t = test
  | seq first second => second.endsWith test || second.isWidthless && first.endsWith test
  | either left right => left.endsWith test && right.endsWith test
  | iterate body least _ _ => least ≠ 0 && body.endsWith test
  | group body => body.endsWith test

/-- There is a group in the pattern. -/
def hasGroup : Expr → Bool
  | empty | word _ | one _ _ | spot _ => false
  | seq first second => first.hasGroup || second.hasGroup
  | either left right => left.hasGroup || right.hasGroup
  | iterate body _ _ _ => body.hasGroup
  | group _ => true

/-- Two patterns are the same; groups never are, as each has its own place in the text. -/
def same (e f : Expr) : Bool := !e.hasGroup && decide (e = f)

/-! ### Sequences -/

/-- One pattern after another. Sequences lean to the right, and fixed texts side by side are one. -/
def andThen : Expr → Expr → Expr
  | empty, f => f
  | e, empty => e
  | seq first second, f => first.andThen (second.andThen f)
  | word s, word t => word (s ++ t)
  | word s, seq (word t) f => seq (word (s ++ t)) f
  | e, f => seq e f

/-- The patterns one after the other. -/
def seqOf (es : List Expr) : Expr := es.foldr andThen empty

/-- The patterns of a sequence. -/
def parts : Expr → List Expr
  | empty => []
  | seq first second => first.parts ++ second.parts
  | e => [e]

/-! ### Choices -/

/-- One character of a set. -/
def ofSet (set : CharSet) (byBytes : Bool) : Expr :=
  match set.only? with
  | some c => word [c]
  | none => one set (byBytes && !set.ranges.isEmpty)

/-- The patterns of a choice. -/
def branches : Expr → List Expr
  | either left right => left.branches ++ right.branches
  | e => [e]

/-- The characters, if all patterns are fixed characters. -/
def chars? : List Expr → Option (List CharSet)
  | [] => some []
  | word [c] :: es => (chars? es).map (.single c :: ·)
  | _ => none

/-- The sets, if all patterns are sets of characters. -/
def sets? : List Expr → Option (List CharSet)
  | [] => some []
  | one set _ :: es => (sets? es).map (set :: ·)
  | _ => none

/-- One of the patterns, which are no choices. -/
def oneOf : List Expr → Expr
  | [] => empty
  | [e] => e
  | e :: es => either e (oneOf es)

/-- One of the patterns. Fixed characters make up a set, and so do sets. -/
def merged (es : List Expr) : Expr :=
  let es := es.flatMap branches
  match (chars? es).or (sets? es) with
  | some sets => ofSet (CharSet.ofRanges (sets.flatMap (·.ranges))) false
  | none => oneOf es

/-- What two lists begin with in common. -/
def commonParts : List Expr → List Expr → List Expr
  | e :: es, f :: fs => if e.same f then e :: commonParts es fs else []
  | _, _ => []

/-- One of the patterns. What all sequences among them begin with comes before the choice, if there is
nothing else among them. -/
def eitherOf (es : List Expr) : Expr :=
  match (merged es).branches.map parts with
  | first :: second :: rest =>
    let others := second :: rest
    let common := others.foldl commonParts first
    if common.isEmpty || (first :: others).any (·.length ≤ 1) then merged es
    else
      seqOf (common ++ [merged ((first :: others).map fun parts => seqOf (parts.drop common.length))])
  | _ => merged es

/-! ### Repetitions -/

/-- The pattern some number of times. What matches no character matches once if at all. -/
def times (body : Expr) (least : Nat) (most : Option Nat) (lazy : Bool) : Expr :=
  let (least, most) :=
    if body.isWidthless then (min least 1, some (min (most.getD 1) 1)) else (least, most)
  if most = some 0 then empty
  else if least = 1 && most = some 1 then body
  else iterate body least most lazy

end Expr

end ServletRoutes.Pattern
