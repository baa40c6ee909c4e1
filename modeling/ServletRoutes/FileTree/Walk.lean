import ServletRoutes.FileTree.Basic

/-!
# `ServletRoutes.FileTree.Walk`: the files below a directory

A walk goes depth first and takes the entries of each directory in name order, files and
directories mixed. That is the order of the places as lists of names: by the first name that
differs, a directory before what is below it.
-/

set_option autoImplicit false

namespace ServletRoutes

namespace FileTree

/-- Files in the order of a walk. -/
def walkOrder (files : List (List Text × Bytes)) : List (List Text × Bytes) :=
  files.mergeSort fun f g => !decide (g.1 < f.1)

/-- The files below a directory, by the names on the way to them, in the order of a walk. -/
def filesBelow (tree : FileTree) (directory : Place) : List (List Text × Bytes) :=
  walkOrder (tree.nodes.filterMap fun n =>
    match n.2 with
    | .directory => none
    | .file content => (directory.below? n.1).map fun names => (names, content))

/-- The names of the files that lie in a directory itself, in order. -/
def filesIn (tree : FileTree) (directory : Place) : List Text :=
  (tree.filesBelow directory).filterMap fun f =>
    match f.1 with
    | [name] => some name
    | _ => none

end FileTree

end ServletRoutes
