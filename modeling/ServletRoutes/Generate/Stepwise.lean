import ServletRoutes.Generate.Run

/-!
# `ServletRoutes.Generate.Stepwise`: a run at work on the files

The steps of a run in the order in which they are taken. The targets are gone through once: each
document is read, updated in memory and counted, and put down for writing if it gets another
content. Only after the last target are the documents written that were put down. An inspection
stops before the documents.
-/

set_option autoImplicit false

namespace ServletRoutes.Generate

/-- Work on the files that may fail on the way. -/
abbrev FileWork (α : Type) : Type := ExceptT Fault (StateM FileTree) α

namespace FileWork

/-- Carries out work on a tree, and gives its outcome with the tree that it leaves. -/
def on {α : Type} (work : FileWork α) (tree : FileTree) : Except Fault α × FileTree :=
  work.run.run tree

/-- Finds something out from the files as they are. -/
def ask {α : Type} (question : FileTree → Except Fault α) : FileWork α := do
  match question (← get) with
  | .error fault => throw fault
  | .ok answer => return answer

end FileWork

/-- Writes a text to a document. -/
def writeDocument (document : Text × Text) : FileWork Unit :=
  modify fun tree => tree.writeText document.1 document.2

/-- How far a run has come with its targets. -/
structure Progress where
  /-- The totals of the targets so far. -/
  totals : Summary
  /-- The documents to be written, by path, with their texts. -/
  pending : List (Text × Text)
deriving DecidableEq

namespace Progress

/-- Before the first target. -/
def start (stats : ScanStats) : Progress := ⟨⟨0, 0, 0, [], stats⟩, []⟩

/-- Counts a document, and puts it down for writing if it gets another content. -/
def add (progress : Progress) (d : Draft) : Progress where
  totals := {
    mappingsGenerated := progress.totals.mappingsGenerated +
      if d.target.tally.mappings then d.resolution.patternCount else 0
    skipped := progress.totals.skipped +
      if d.target.tally.skipped then d.resolution.skipped.length else 0
    elevated := progress.totals.elevated +
      if d.target.tally.elevated then d.resolution.elevatedPatternCount else 0
    documents := progress.totals.documents ++ [d.report]
    scan := progress.totals.scan }
  pending :=
    if d.changed then progress.pending ++ [(d.target.path, d.updated.text)] else progress.pending

/-- Reads and updates the document of the next target. -/
def advance (progress : Progress) (next : Target × TargetReport) : FileWork Progress := do
  let d ← FileWork.ask fun tree => draft tree next.1 next.2
  return progress.add d

end Progress

/-- Brings the documents of the targets up to date. What a reader answers hangs on the files. -/
def perform (config : Config) (reader : FileTree → ArtifactReader) (artifacts : List Text)
    (targets : List Target) : FileWork Summary := do
  let scanned ← FileWork.ask fun tree => scan config (reader tree) artifacts
  let reports ← FileWork.ask fun _ => resolve config scanned targets
  let progress ← (targets.zip reports).foldlM Progress.advance (.start scanned.stats)
  progress.pending.forM writeDocument
  return progress.totals

/-- Scans and resolves, and touches no document. -/
def examine (config : Config) (reader : FileTree → ArtifactReader) (artifacts : List Text)
    (targets : List Target) : FileWork (List TargetReport) := do
  let scanned ← FileWork.ask fun tree => scan config (reader tree) artifacts
  FileWork.ask fun _ => resolve config scanned targets

end ServletRoutes.Generate
