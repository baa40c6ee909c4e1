import ServletRoutes.Text.Utf8
import ServletRoutes.Pattern.Expr
import ServletRoutes.Pattern.Size.Set
import ServletRoutes.Pattern.Size.Words

/-!
# `ServletRoutes.Pattern.Size`: how much room a pattern takes

A pattern is refused if the machine that would search for it takes more than ten mebibytes. The
machine works on the bytes of UTF-8 and is built twice, for reading forward and backward. Repetitions
are built by copying. What a machine takes is counted here without building it.
-/

set_option autoImplicit false

namespace ServletRoutes.Pattern

namespace Growth

/-- A branch of a choice, with its bytes if it is a fixed text. -/
structure Branch where
  growth : Growth
  word : Option Word

/-- A choice: a state before the branches and one after them, which come when two branches have been
built. A single branch stands for itself. -/
def ofBranches (isBackward : Bool) : List Branch → Growth
  | [] => fixed {}
  | [branch] => branch.growth
  | first :: second :: rest =>
    let branches := first :: second :: rest
    if branches.all (·.word.isSome) then ofWords isBackward (branches.filterMap (·.word))
    else
      first.growth ++ second.growth ++
        fixed ((Size.branching branches.length).add (.plain 1)) ++ all (rest.map (·.growth))

/-- A repetition. Without an upper bound, what is never empty leads back to the state before it, and
what may be empty needs a way around the repetition. -/
def ofRepetition (body : Growth) (isNonempty : Bool) (least : Nat) : Option Nat → Growth
  | none =>
    let branching := fixed (.branching 2)
    if least = 0 then
      if isNonempty then branching ++ body else body ++ branching ++ branching ++ fixed (.plain 1)
    else body.copies least ++ branching
  | some most =>
    if least = most then if least = 0 then fixed (.plain 1) else body.copies least
    else if least = 0 && most = 1 then fixed (.branching 2) ++ body ++ fixed (.plain 1)
    else
      (if least = 0 then fixed (.plain 1) else body.copies least) ++ fixed (.plain 1) ++
        (fixed (.branching 2) ++ body).copies (most - least)

/-- The branches of a pattern, read forward or backward. Only the forward machine remembers groups. -/
def branchesOf (isBackward : Bool) : Expr → List Branch
  | .empty | .spot _ => [⟨fixed (.plain 1), none⟩]
  | .word text =>
    let bytes := Text.Utf8.encode text
    [⟨fixed (.plain bytes.length), some bytes⟩]
  | .one set _ => [⟨ofSet isBackward set, none⟩]
  | .seq first second =>
    let first := ofBranches isBackward (branchesOf isBackward first)
    let second := ofBranches isBackward (branchesOf isBackward second)
    [⟨if isBackward then second ++ first else first ++ second, none⟩]
  | .either left right => branchesOf isBackward left ++ branchesOf isBackward right
  | .iterate body least most _ =>
    let isNonempty := body.shortest?.any (0 < ·)
    let body := ofBranches isBackward (branchesOf isBackward body)
    [⟨ofRepetition body isNonempty least most, none⟩]
  | .group body =>
    let body := ofBranches isBackward (branchesOf isBackward body)
    let place := fixed (.plain 1)
    [⟨if isBackward then body else place ++ body ++ place, none⟩]

/-- The machine of a pattern. It begins with a loop over all bytes, unless matches are bound to the
end of the text where reading begins. The forward one has a group around the whole pattern. -/
def ofExpr (isBackward : Bool) (e : Expr) : Growth :=
  let isBound := if isBackward then e.endsWith .textEnd else e.beginsWith .textStart
  let start := if isBound then Size.plain 1 else (Size.branching 2).add ((Size.plain 1).add (.reading 1))
  let body := ofBranches isBackward (branchesOf isBackward e)
  if isBackward then fixed start ++ body ++ fixed (.plain 1)
  else fixed (start.add (.plain 1)) ++ body ++ fixed (.plain 2)

end Growth

/-- Both machines of a pattern stay within the limit. -/
def Expr.fits (e : Expr) : Bool :=
  ((Growth.ofExpr false e).onto {}).fits && ((Growth.ofExpr true e).onto {}).fits

end ServletRoutes.Pattern
