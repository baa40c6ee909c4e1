/-!
# `ServletRoutes.Unicode.Run`: runs of code points

The property tables of this library list runs: every `step`-th code point from `first` to
`last`. A step of two lets one run hold a stretch where upper and lower case alternate.
-/

set_option autoImplicit false

namespace ServletRoutes.Unicode

/-- Every `step`-th code point from `first` to `last`. -/
structure Run where
  first : Nat
  last : Nat
  step : Nat

/-- The code point `n` belongs to the run. -/
def Run.contains (r : Run) (n : Nat) : Bool :=
  decide (r.first ≤ n) && decide (n ≤ r.last) && (n - r.first) % r.step == 0

/-- The character belongs to one of the runs. -/
def inRuns (runs : List Run) (c : Char) : Bool := runs.any fun r => r.contains c.toNat

end ServletRoutes.Unicode
