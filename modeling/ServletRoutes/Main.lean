import ServletRoutes.CommandLine.Session

/-!
# `ServletRoutes.Main`: the program

The program loads what its arguments name, carries them out on the loaded tree, writes what has
changed and prints the outcome.
-/

set_option autoImplicit false

namespace ServletRoutes.Program

open CommandLine (Invocation Outcome)

/-- Adds a file with the directories above it. -/
def addFile (tree : FileTree) (path : Text) (bytes : ByteArray) : FileTree :=
  (tree.makePath (Path.parent path)).putFile path bytes.toList

/-- Adds what a path leads to and all that is below it. -/
def load (tree : FileTree) (path : Text) : IO FileTree := do
  let start := (← IO.currentDir) / String.ofList path
  if path = [] || !(← start.pathExists) then return tree
  if !(← start.isDir) then return addFile tree path (← IO.FS.readBinFile start)
  let mut tree := tree.makePath path
  for found in ← start.walkDir do
    let path := path ++ found.toString.toList.drop start.toString.length
    if ← found.isDir then tree := tree.makePath path
    else tree := addFile tree path (← IO.FS.readBinFile found)
  return tree

/-- Adds the directories on a path and the file that may be in the way. -/
def loadWay (tree : FileTree) (path : Text) : IO FileTree := do
  let parts := Text.splitOn '/' path
  let mut tree := tree
  for size in List.range (parts.length + 1) do
    let path := Text.join ['/'] (parts.take size)
    let start := (← IO.currentDir) / String.ofList path
    if path ≠ [] && (← start.pathExists) then
      if ← start.isDir then tree := tree.makePath path
      else tree := addFile tree path (← IO.FS.readBinFile start)
  return tree

/-- Adds what an invocation reads: first what it names itself, then the documents that its
configuration names. -/
def loadFor (i : Invocation) : IO FileTree := do
  let tree ← i.logDirectory.toList.foldlM loadWay .empty
  let tree ← i.paths.foldlM load tree
  match i.loadConfig tree with
  | .error _ => return tree
  | .ok config => ((Generate.Target.defaults config i.webapp).map (·.path)).foldlM load tree

/-- Writes what lies in a tree and not in an older one. -/
def save (old new : FileTree) : IO Unit := do
  for (place, node) in new.nodes do
    if old.node? place ≠ some node then
      let path := String.ofList place.path
      match node with
      | .directory => IO.FS.createDirAll path
      | .file content => IO.FS.writeBinFile path ⟨content.toArray⟩

/-- Prints an outcome. -/
def print : Outcome → IO Unit
  | .done output => IO.print (String.ofList output)
  | .failed message => IO.eprintln (String.ofList message)
  | .logMissing => IO.eprintln "the directory for the log cannot be used"
  | .misused .help => IO.print (String.ofList CommandLine.usageText)
  | .misused fault => do
    IO.eprintln (String.ofList fault.message)
    IO.eprint (String.ofList CommandLine.usageText)

end ServletRoutes.Program

open ServletRoutes in
/-- Carries out the arguments. -/
def main (args : List String) : IO UInt32 := do
  let arguments := args.map String.toList
  let old ← match CommandLine.Invocation.ofArguments arguments with
    | .ok i => Program.loadFor i
    | .error _ => pure .empty
  let (new, outcome) := CommandLine.session old arguments
  Program.save old new
  Program.print outcome
  return outcome.exitCode.toUInt32
