import ServletRoutes.Pattern.Matching
import ServletRoutes.Pattern.Reading

/-!
# `ServletRoutes.Filter`: which classes are looked at

A filter is a chain of rules that include or exclude class names by a pattern. The chain starts
out accepting unless its first rule includes. Only a rule that could change the verdict is tried,
and the first rule that excludes a name accepted so far ends the chain.
-/

set_option autoImplicit false

namespace ServletRoutes

namespace Filter

/-- What a rule does with the names that match. -/
inductive Sign
  | includes
  | excludes
deriving DecidableEq

/-- A rule of a chain. -/
structure Rule where
  sign : Sign
  /-- The names that the rule is about. -/
  covers : Text → Bool

/-- Why an expression is no filter. -/
inductive Fault
  /-- An entry begins with neither `+` nor `-`. -/
  | signMissing (entry : Text)
  /-- The pattern of an entry has no meaning. -/
  | invalidPattern (pattern : Text) (reason : Pattern.Fault)
deriving DecidableEq

/-- The wording of a fault, down to the first line of the reason. -/
def Fault.message : Fault → Text
  | signMissing entry =>
    "filter entry `".toList ++ entry ++ "` must start with either + or -".toList
  | invalidPattern pattern reason =>
    "invalid pattern `".toList ++ pattern ++ "`: ".toList ++
      (match reason with
      | .malformed => "regex parse error:".toList
      | .tooLarge => "Compiled regex exceeds size limit of 10485760 bytes.".toList)

end Filter

/-- A chain of rules. -/
structure Filter where
  rules : List Filter.Rule

namespace Filter

/-- The verdict of the remaining rules on a name, given the verdict so far. -/
def verdict (name : Text) : Bool → List Rule → Bool
  | accepted, [] => accepted
  -- a name that is accepted already is not tried for inclusion, nor one that is not for exclusion
  | true, ⟨.includes, _⟩ :: rules => verdict name true rules
  | false, ⟨.includes, covers⟩ :: rules => verdict name (covers name) rules
  | false, ⟨.excludes, _⟩ :: rules => verdict name false rules
  | true, ⟨.excludes, covers⟩ :: rules => if covers name then false else verdict name true rules

/-- The verdict before any rule is tried. -/
def startsAccepting : List Rule → Bool
  | ⟨.includes, _⟩ :: _ => false
  | _ => true

/-- The filter lets a class name pass. -/
def accepts (filter : Filter) (name : Text) : Bool :=
  verdict name (startsAccepting filter.rules) filter.rules

/-- The filter lets a resource pass, whose path reads as a name with dots for slashes. -/
def acceptsResource (filter : Filter) (path : Text) : Bool :=
  filter.accepts (Text.replace '/' '.' path)

/-- The filter that lets everything pass. -/
def acceptAll : Filter := ⟨[]⟩

/-- The pattern of an entry, anchored at both ends. -/
def anchored (pattern : Text) : Text := "^(?:".toList ++ pattern ++ ")$".toList

/-- A text without the blanks around it. -/
def trim (t : Text) : Text :=
  ((t.dropWhile Unicode.isBlank).reverse.dropWhile Unicode.isBlank).reverse

/-- The rule of an entry without blanks around it; the pattern is looked at before the sign. -/
def rule? (sign : Char) (pattern : Text) : Except Fault Rule :=
  match Pattern.read (anchored pattern) with
  | .error reason => .error (.invalidPattern pattern reason)
  | .ok e =>
    match sign with
    | '+' => .ok ⟨.includes, e.occursIn⟩
    | '-' => .ok ⟨.excludes, e.occursIn⟩
    | _ => .error (.signMissing (sign :: pattern))

/-- The rules of a list of entries; empty ones are left out. -/
def rules? : List Text → Except Fault (List Rule)
  | [] => .ok []
  | entry :: entries =>
    match trim entry with
    | [] => rules? entries
    | sign :: pattern =>
      match rule? sign pattern with
      | .error fault => .error fault
      | .ok rule => (rules? entries).map fun rules => rule :: rules

/-- The filter of an expression, a list of entries between commas. -/
def parse (expression : Text) : Except Fault Filter :=
  (rules? (Text.splitOn ',' expression)).map Filter.mk

/-- The expression that leaves out the platform's own classes but for the servlet types. -/
def defaultExpression : Text :=
  "-java\\..*, -javax\\..*, -sun\\..*, -com\\.sun\\..*, +javax\\.servlet\\.http\\..*".toList

end Filter

end ServletRoutes
