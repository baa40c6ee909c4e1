import ServletRoutes.Text.Utf8

/-!
# `ServletRoutes.FileTree.Basic`: the files that a run sees

A file tree says what lies at each place: a directory or a file, which is a sequence of bytes.
Paths are looked up part by part from the root or the working directory; `.` stays where it is,
`..` goes up, and only directories can be walked through.
-/

set_option autoImplicit false

namespace ServletRoutes

/-- Where the way to a place begins. -/
inductive Origin
  | root
  /-- So many levels above the working directory. -/
  | above (levels : Nat)
deriving DecidableEq

/-- A place, by the names on the way from its origin. -/
structure Place where
  origin : Origin
  names : List Text
deriving DecidableEq

namespace Place

/-- The working directory. -/
def working : Place := ⟨.above 0, []⟩

/-- The place with a name in a directory. -/
def child (place : Place) (name : Text) : Place := ⟨place.origin, place.names ++ [name]⟩

/-- The directory of a place; nothing is above the root. -/
def parent (place : Place) : Place :=
  match place.origin, place.names with
  | .root, [] => place
  | .above levels, [] => ⟨.above (levels + 1), []⟩
  | origin, names => ⟨origin, names.dropLast⟩

/-- A path to a place. -/
def path (place : Place) : Text :=
  match place.origin with
  | .root => '/' :: Text.join ['/'] place.names
  | .above levels => Text.join ['/'] (List.replicate levels ['.', '.'] ++ place.names)

/-- The names on the way from a directory to a place below it. -/
def below? (directory place : Place) : Option (List Text) :=
  if directory.origin = place.origin && directory.names.isPrefixOf place.names then
    some (place.names.drop directory.names.length)
  else none

end Place

/-- What lies at a place. -/
inductive Node
  | directory
  | file (content : Bytes)
deriving DecidableEq

/-- Why a file cannot be read. -/
inductive FileFault
  | missing
  | notDirectory
  | isDirectory
  /-- The file has fewer bytes than are asked for. -/
  | tooShort
  | notUtf8
deriving DecidableEq

/-- The wording of a fault. -/
def FileFault.message : FileFault → Text
  | missing => "No such file or directory (os error 2)".toList
  | notDirectory => "Not a directory (os error 20)".toList
  | isDirectory => "Is a directory (os error 21)".toList
  | tooShort => "failed to fill whole buffer".toList
  | notUtf8 => "stream did not contain valid UTF-8".toList

/-- The places where something lies, apart from the origins. -/
structure FileTree where
  nodes : List (Place × Node)
deriving DecidableEq

namespace FileTree

/-- The tree in which nothing lies. -/
def empty : FileTree := ⟨[]⟩

/-! ### Places -/

/-- What lies at a place; an origin is always a directory. -/
def node? (tree : FileTree) (place : Place) : Option Node :=
  if place.names = [] then some .directory
  else (tree.nodes.find? fun n => n.1 = place).map (·.2)

/-- Puts a node at a place, in place of what lay there. -/
def put (tree : FileTree) (place : Place) (node : Node) : FileTree :=
  ⟨if tree.nodes.any fun n => n.1 = place then
      tree.nodes.map fun n => if n.1 = place then (place, node) else n
    else tree.nodes ++ [(place, node)]⟩

/-- Takes away what lies at a place and below it. -/
def remove (tree : FileTree) (place : Place) : FileTree :=
  ⟨tree.nodes.filter fun n => (place.below? n.1).isNone⟩

/-! ### Paths -/

/-- Where a path begins. -/
def start (path : Text) : Place := if path.head? = some '/' then ⟨.root, []⟩ else .working

/-- One part of a path, from a place that has to be a directory. -/
def step (tree : FileTree) (place : Place) (part : Text) : Except FileFault Place :=
  match tree.node? place with
  | none => .error .missing
  | some (.file _) => .error .notDirectory
  | some .directory =>
    if part = [] || part = ['.'] then .ok place
    else if part = ['.', '.'] then .ok place.parent
    else .ok (place.child part)

/-- Follows the parts of a path. -/
def follow (tree : FileTree) : Place → List Text → Except FileFault Place
  | place, [] => .ok place
  | place, part :: parts =>
    match tree.step place part with
    | .error fault => .error fault
    | .ok next => tree.follow next parts

/-- The place that a path names, whether something lies there or not. -/
def locate (tree : FileTree) (path : Text) : Except FileFault Place :=
  if path = [] then .error .missing else tree.follow (start path) (Text.splitOn '/' path)

/-- Makes the directories on a path that do not exist, as far as there is no file in the way. -/
def makePathFrom (tree : FileTree) : Place → List Text → FileTree
  | _, [] => tree
  | place, part :: parts =>
    match tree.step place part with
    | .error _ => tree
    | .ok next =>
      let tree := if (tree.node? next).isNone then tree.put next .directory else tree
      tree.makePathFrom next parts

/-- Makes a directory with all those above it. -/
def makePath (tree : FileTree) (path : Text) : FileTree :=
  tree.makePathFrom (start path) (Text.splitOn '/' path)

/-- What a path leads to. -/
def lookup (tree : FileTree) (path : Text) : Except FileFault Node :=
  match tree.locate path with
  | .error fault => .error fault
  | .ok place =>
    match tree.node? place with
    | none => .error .missing
    | some node => .ok node

/-- The path leads to a directory. -/
def isDirectory (tree : FileTree) (path : Text) : Bool :=
  match tree.lookup path with
  | .ok .directory => true
  | _ => false

/-- The content of the file that a path leads to. -/
def contentAt (tree : FileTree) (path : Text) : Except FileFault Bytes :=
  match tree.lookup path with
  | .error fault => .error fault
  | .ok .directory => .error .isDirectory
  | .ok (.file content) => .ok content

/-- A content as text. -/
def textOf (content : Bytes) : Except FileFault Text :=
  match Text.Utf8.decode content with
  | .ok text => .ok text
  | .error _ => .error .notUtf8

/-- The text of the file that a path leads to. -/
def textAt (tree : FileTree) (path : Text) : Except FileFault Text :=
  match tree.contentAt path with
  | .error fault => .error fault
  | .ok content => textOf content

/-- Puts a file where a path leads to, in place of what lay there. -/
def putFile (tree : FileTree) (path : Text) (content : Bytes) : FileTree :=
  match tree.locate path with
  | .error _ => tree
  | .ok place => tree.put place (.file content)

/-- Writes a text to the file that a path leads to. -/
def writeText (tree : FileTree) (path : Text) (text : Text) : FileTree :=
  tree.putFile path (Text.Utf8.encode text)

end FileTree

end ServletRoutes
