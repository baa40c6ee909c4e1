import ServletRoutes.Archive.Reading
import ServletRoutes.ClassFile.Basic
import ServletRoutes.FileTree.Walk
import ServletRoutes.FileTree.Path
import ServletRoutes.Filter

/-!
# `ServletRoutes.Artifact.Basic`: the classes of an artifact

An artifact is a class directory, an archive or a single class file. Its class resources are the
entries that could be classes of its own: no module descriptor and no copy for another version.
Each of them is read, filtered out or unreadable, and a bad one costs only itself; an artifact
fails as a whole only where it cannot be opened.
-/

set_option autoImplicit false

namespace ServletRoutes

/-- What reading an artifact gives. -/
structure ArtifactScan where
  /-- The classes that were read, in order. -/
  records : List ClassRecord
  /-- The number of class resources that the filter keeps out. -/
  filtered : Nat
  /-- The number of class resources that could not be read. -/
  failed : Nat

namespace Artifact

/-- Why an artifact cannot be read. -/
inductive Fault
  | file (fault : FileFault)
  /-- The archive, or one of its entries, does not open. -/
  | archive
  | classFile (fault : ClassFile.Fault)
  /-- The file is neither an archive nor a class file. -/
  | unknownFormat (path : Text)
deriving DecidableEq

/-- The wording of a fault. -/
def Fault.message : Fault → Text
  | file fault => "I/O error: ".toList ++ fault.message
  | archive => "archive error".toList
  | classFile fault => "class format error: ".toList ++ fault.description
  | unknownFormat path => "unrecognized artifact format: ".toList ++ path

/-! ### Class resources -/

/-- The name of an entry that could be a class of the artifact. -/
def isClassResource (name : Text) : Bool :=
  Text.endsWith ".class".toList name && !Text.startsWith "META-INF/".toList name &&
    !Text.endsWith "module-info.class".toList name

/-- What becomes of a class resource. -/
inductive Outcome
  | read (record : ClassRecord)
  | filtered
  | failed

/-- Looks at an entry; nothing becomes of one that is no class resource. Without bytes the entry
could not be read. -/
def outcome? (filter : Filter) (name : Text) (bytes? : Option Bytes) : Option Outcome :=
  if !isClassResource name then none
  else if !filter.acceptsResource name then some .filtered
  else
    match bytes? with
    | none => some .failed
    | some bytes =>
      match ClassFile.parse bytes with
      | .ok record => some (.read record)
      | .error _ => some .failed

/-- Adds one outcome in front. -/
def tally : Outcome → ArtifactScan → ArtifactScan
  | .read record, s => { s with records := record :: s.records }
  | .filtered, s => { s with filtered := s.filtered + 1 }
  | .failed, s => { s with failed := s.failed + 1 }

/-- All outcomes together. -/
def ofOutcomes (outcomes : List Outcome) : ArtifactScan := outcomes.foldr tally ⟨[], 0, 0⟩

/-! ### The kinds of artifacts -/

/-- The name of a resource, by the names on the way to it from its class directory. -/
def resourceName (names : List Text) : Text := Text.replace '\\' '/' (Text.join ['/'] names)

/-- The classes below a directory. -/
def ofDirectory (filter : Filter) (tree : FileTree) (directory : Place) : ArtifactScan :=
  ofOutcomes ((tree.filesBelow directory).filterMap fun (names, content) =>
    outcome? filter (resourceName names) (some content))

/-- The bytes of an entry. -/
def entryBytes? : EntryContent → Option Bytes
  | .intact bytes => some bytes
  | .damaged | .sealed => none

/-- The classes of an archive, all of whose entries have to open. -/
def ofArchive (filter : Filter) (archive : Archive) : Except Fault ArtifactScan :=
  -- entries are opened before their names are looked at, so any of them can fail the archive
  if archive.any fun e => e.content = .sealed then .error .archive
  else
    .ok (ofOutcomes (archive.filterMap fun e =>
      outcome? filter e.name (entryBytes? e.content)))

/-- The class of a single class file. The filter is asked about its name, for want of a path. -/
def ofClassFile (filter : Filter) (bytes : Bytes) : Except Fault ArtifactScan :=
  match ClassFile.parse bytes with
  | .error fault => .error (.classFile fault)
  | .ok record =>
    if filter.accepts (record.declaration.name ++ ".class".toList) then .ok ⟨[record], 0, 0⟩
    else .ok ⟨[], 1, 0⟩

/-- The classes of a file, told apart by its first four bytes. Of an archive the first two are
enough. -/
def ofFile (decoders : Archive.Decoders) (filter : Filter) (path : Text) (content : Bytes) :
    Except Fault ArtifactScan :=
  match content with
  | a :: b :: c :: d :: _ =>
    if [a, b] = Archive.mark then
      match Archive.ofBytes? decoders content with
      | some archive => ofArchive filter archive
      | none => .error .archive
    else if [a, b, c, d] = [0xCA, 0xFE, 0xBA, 0xBE] then ofClassFile filter content
    else .error (.unknownFormat path)
  | _ => .error (.file .tooShort)

/-- The classes of the artifact that a path leads to, with what undoes the compression of archives. -/
def readWith (decoders : Archive.Decoders) (tree : FileTree) (path : Text) (filter : Filter) :
    Except Fault ArtifactScan :=
  match tree.locate path with
  | .error fault => .error (.file fault)
  | .ok place =>
    match tree.node? place with
    | none => .error (.file .missing)
    | some .directory => .ok (ofDirectory filter tree place)
    | some (.file content) => ofFile decoders filter path content

/-- The classes of the artifact that a path leads to. -/
def read (tree : FileTree) (path : Text) (filter : Filter) : Except Fault ArtifactScan :=
  readWith .standard tree path filter

/-- The path looks like an artifact: it leads to a directory or has one of the extensions. -/
def canRead (tree : FileTree) (path : Text) : Bool :=
  tree.isDirectory path ||
    match Path.extension? path with
    | some extension =>
      ["jar", "zip", "class"].any fun e => e.toList = Text.lowerAscii extension
    | none => false

end Artifact

end ServletRoutes
