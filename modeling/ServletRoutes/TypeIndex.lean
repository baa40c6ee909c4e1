import ServletRoutes.Text.NameSet
import ServletRoutes.Annotations.Value

/-!
# `ServletRoutes.TypeIndex`: which types extend which

The index knows every name that occurs in a declaration, as the declared type or as a supertype,
and one link per declared supertype. The subtypes of a base are found in rounds: each round adds
the types that are declared directly below a type found in the round before. There are at most as
many rounds as names, because each but the last finds a new one.
-/

set_option autoImplicit false

namespace ServletRoutes

/-- The declared type hierarchy. -/
structure TypeIndex where
  /-- Every name that occurs. -/
  names : NameSet
  /-- Each type with one of its declared supertypes. -/
  links : List (Text × Text)

namespace TypeIndex

/-- The index of a list of declarations. -/
def ofDeclarations (declarations : List TypeDeclaration) : TypeIndex where
  names := .ofList (declarations.flatMap fun d => d.name :: d.supertypes)
  links := declarations.flatMap fun d => d.supertypes.map fun s => (d.name, s)

/-- The number of different names. -/
def size (index : TypeIndex) : Nat := index.names.size

/-- The types that are declared directly below one of the given types and not found yet. -/
def newBelow (links : List (Text × Text)) (found given : NameSet) : NameSet :=
  .ofList ((links.filter fun l => l.2 ∈ given && l.1 ∉ found).map (·.1))

/-- Goes on from the types that were found last, for at most the given number of rounds, until a
round finds nothing. -/
def closure (links : List (Text × Text)) : Nat → NameSet → NameSet → NameSet
  | 0, found, _ => found
  | rounds + 1, found, last =>
    let new := newBelow links found last
    if new = .empty then found else closure links rounds (found.union new) new

/-- The types below a base, the base itself left out. -/
def subtypesOf (index : TypeIndex) (base : Text) : NameSet :=
  let start := .ofList [base]
  (closure index.links index.size start start).filter fun n => n ≠ base

end TypeIndex

end ServletRoutes
