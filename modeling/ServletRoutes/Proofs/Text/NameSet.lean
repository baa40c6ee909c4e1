import Mathlib.Data.List.Sort
import ServletRoutes.Text.NameSet

/-!
# `ServletRoutes.Proofs.Text.NameSet`: a set is its members

The names of a set stand in one order only, so two sets with the same
members are the same value. Whatever is computed from sets is therefore
settled by membership alone.
-/

set_option autoImplicit false

namespace ServletRoutes.NameSet

/-- Sets with the same members are equal. -/
theorem ext_of_mem {s t : NameSet} (h : ∀ x, x ∈ s ↔ x ∈ t) : s = t :=
  NameSet.ext (s.ascending.eq_of_mem_iff t.ascending h)

/-- No name stands twice. -/
theorem nodup_toList (s : NameSet) : s.toList.Nodup := s.ascending.nodup

end ServletRoutes.NameSet
