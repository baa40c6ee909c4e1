import ServletRoutes.TypeIndex
import ServletRoutes.Annotations.Store
import ServletRoutes.Artifact.Basic

/-!
# `ServletRoutes.Scan`: all artifacts together

A scan reads artifacts through a reader and merges what they hold, in the order of the artifacts:
the declared types into an index, and the `value` members of annotations into a store. An
artifact that cannot be read counts as such and adds nothing else. Whether artifacts are read one
after the other or at once makes no difference to the result.
-/

set_option autoImplicit false

namespace ServletRoutes

/-- What is recorded about classes. -/
inductive ScannerKind
  /-- Supertypes, for the type index. -/
  | subtypes
  /-- `value` members of annotations. -/
  | annotations
deriving DecidableEq

/-- How a scan is done. -/
structure ScanOptions where
  filter : Filter
  scanners : List ScannerKind
  /-- Read artifacts at once. -/
  parallel : Bool
  /-- The number of workers, if it is fixed. -/
  threads : Option Nat

/-- Gives access to artifacts by path. -/
structure ArtifactReader where
  /-- The artifact is of a kind that can be read. -/
  canRead : Text → Bool
  /-- The classes of the artifact, unless it cannot be opened. -/
  read? : Text → Filter → Option ArtifactScan

/-- The reader of the artifacts in a file tree. -/
def FileTree.reader (tree : FileTree) : ArtifactReader where
  canRead := Artifact.canRead tree
  read? path filter := (Artifact.read tree path filter).toOption

/-- The counters of a scan. -/
structure ScanStats where
  artifacts : Nat
  unreadable : Nat
  classes : Nat
  filtered : Nat
  failed : Nat
  annotationValues : Nat
deriving DecidableEq

/-- The outcome of a scan. -/
structure Scan where
  index : TypeIndex
  store : Annotations.Store
  stats : ScanStats

namespace Scan

open Annotations (Key Value Store)

/-- What is read from one artifact. -/
def reading (reader : ArtifactReader) (filter : Filter) (artifact : Text) : Option ArtifactScan :=
  if reader.canRead artifact then reader.read? artifact filter else none

/-- What a class adds to the store: the `value` member of each of its annotations. -/
def recordings (record : ClassRecord) : List (Key × Value) :=
  record.annotations.filterMap fun a =>
    (a.member? "value".toList).map fun value => (⟨record.declaration.name, a.typeName⟩, value)

/-- The outcome for what was read from the artifacts, in their order. -/
def ofReadings (scanners : List ScannerKind) (readings : List (Option ArtifactScan)) : Scan :=
  let readable := readings.filterMap id
  let records := readable.flatMap (·.records)
  let recorded := if .annotations ∈ scanners then records.flatMap recordings else []
  { index := .ofDeclarations (if .subtypes ∈ scanners then records.map (·.declaration) else [])
    store := recorded.foldl (fun s r => s.record r.1 r.2) .empty
    stats :=
      { artifacts := readings.length
        unreadable := readings.length - readable.length
        classes := records.length
        filtered := total (·.filtered) readable
        failed := total (·.failed) readable
        annotationValues := total (fun r => r.2.tokens.length) recorded } }

/-- Scans artifacts. -/
def run (reader : ArtifactReader) (options : ScanOptions) (artifacts : List Text) : Scan :=
  ofReadings options.scanners (artifacts.map (reading reader options.filter))

end Scan

end ServletRoutes
