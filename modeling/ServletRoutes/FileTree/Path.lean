import ServletRoutes.Text.Basic

/-!
# `ServletRoutes.FileTree.Path`: paths as they are written

Paths are joined and printed as they were given and never tidied up. The extension of a path is
what follows the last dot of its last part, unless that dot is the first character.
-/

set_option autoImplicit false

namespace ServletRoutes.Path

/-- A path below another one. -/
def join (base part : Text) : Text :=
  if base = [] || Text.endsWith ['/'] base then base ++ part else base ++ '/' :: part

/-- A path without its last part. -/
def parent (path : Text) : Text := Text.join ['/'] (Text.splitOn '/' path).dropLast

/-- The last part of a path, if it names something; single dots and slashes at the end do not. -/
def fileName? (path : Text) : Option Text :=
  match (Text.splitOn '/' path).filter fun part => !(part = [] || part = ['.']) with
  | [] => none
  | part :: parts =>
    let last := (part :: parts).getLast (by simp)
    if last = ['.', '.'] then none else some last

/-- The extension of a path. -/
def extension? (path : Text) : Option Text :=
  match fileName? path with
  | none => none
  | some name =>
    match Text.cut? ['.'] name.reverse with
    | some (extension, stem) => if stem = [] then none else some extension.reverse
    | none => none

end ServletRoutes.Path
