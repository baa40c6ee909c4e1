import ServletRoutes.Unicode.Run

/-!
# `ServletRoutes.Unicode.Script.Basic`: scripts

A script has its own characters and shares others with some scripts, such as marks and digits.
-/

set_option autoImplicit false

namespace ServletRoutes.Unicode

/-- A script: its long and its short name and any other, in small letters without underscores, the
characters of its own and those that it shares with other scripts. -/
structure Script where
  names : List String
  own : List Run
  shared : List Run

end ServletRoutes.Unicode
