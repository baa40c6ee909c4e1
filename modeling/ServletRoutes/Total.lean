/-!
# `ServletRoutes.Total`: counts added up over a list

Sizes and reports add up a count over the items of a list. `total count` is the sum of the mapped
list, and its laws are those of sums.
-/

set_option autoImplicit false

namespace ServletRoutes

/-- The sum of the counts of all items. -/
def total {α : Type} (count : α → Nat) (as : List α) : Nat :=
  -- the zero is written out: which one is found depends on what else is imported
  @List.sum Nat _ ⟨0⟩ (as.map count)

/-- Nothing adds up to zero. -/
@[simp] theorem total_nil {α : Type} (count : α → Nat) : total count [] = 0 := rfl

/-- The first item is added to the others. -/
@[simp] theorem total_cons {α : Type} (count : α → Nat) (a : α) (as : List α) :
    total count (a :: as) = count a + total count as := List.sum_cons

/-- The totals of two lists add up to that of both together. -/
@[simp] theorem total_append {α : Type} (count : α → Nat) (as bs : List α) :
    total count (as ++ bs) = total count as + total count bs := by
  rw [total, List.map_append]
  exact List.sum_append_nat

end ServletRoutes
