import ServletRoutes.Proofs.Text.NameSet
import ServletRoutes.TypeIndex

/-!
# `ServletRoutes.Proofs.TypeIndex`: what the subtypes depend on

The search for subtypes asks of an index only which names it has and which
links. How often a type was declared and in what order makes no difference
(`TypeIndex.Agrees.subtypesOf_eq`).
-/

set_option autoImplicit false

namespace ServletRoutes.TypeIndex

variable {index index' : TypeIndex}

/-- Two indexes have the same names and the same links. -/
structure Agrees (index index' : TypeIndex) : Prop where
  names : ∀ name, name ∈ index.names ↔ name ∈ index'.names
  links : ∀ link, link ∈ index.links ↔ link ∈ index'.links

namespace Agrees

/-- There are equally many names. -/
theorem size_eq (h : Agrees index index') : index.size = index'.size := by
  rw [size, size, NameSet.ext_of_mem h.names]

/-- A round finds the same types. -/
theorem newBelow_eq (h : Agrees index index') (found given : NameSet) :
    newBelow index.links found given = newBelow index'.links found given := by
  refine NameSet.ext_of_mem fun name => ?_
  simp only [newBelow, NameSet.mem_ofList, List.mem_map, List.mem_filter, h.links]

/-- The rounds find the same types. -/
theorem closure_eq (h : Agrees index index') (rounds : Nat) (found last : NameSet) :
    closure index.links rounds found last = closure index'.links rounds found last := by
  induction rounds generalizing found last with
  | zero => rfl
  | succ rounds ih => simp only [closure, h.newBelow_eq, ih]

/-- Every base has the same subtypes. -/
theorem subtypesOf_eq (h : Agrees index index') (base : Text) :
    index.subtypesOf base = index'.subtypesOf base := by
  rw [subtypesOf, subtypesOf, h.closure_eq, h.size_eq]

end Agrees

end ServletRoutes.TypeIndex
