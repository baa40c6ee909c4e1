import ServletRoutes.Config.Reading
import ServletRoutes.Generate.Target
import ServletRoutes.Json.Printer
import ServletRoutes.Route.Resolution

/-!
# `ServletRoutes.Generate.Run`: bringing documents up to date

A run scans the artifacts, resolves the routes for every target and updates every document, all
from the files as they are at the start. Only when nothing failed are the changed documents
written, in the order of the targets. An inspection stops before the documents.
-/

set_option autoImplicit false

namespace ServletRoutes.Generate

open Route (Resolution)

/-- Why a run fails. -/
inductive Fault
  | config (fault : Config.LoadFault)
  | filter (fault : Filter.Fault)
  | route (fault : Route.SegmentMissing)
  /-- A document cannot be read. -/
  | documentFile (path : Text) (fault : FileFault)
  /-- A document cannot take its region. -/
  | documentRegion (path : Text) (fault : Document.Fault)
deriving DecidableEq

/-- The wording of a fault. -/
def Fault.message : Fault → Text
  | config (.file fault) => "I/O error: ".toList ++ fault.message
  | config (.json _) => "configuration error".toList
  | filter fault => "filter error: ".toList ++ fault.message
  | route fault => "route resolution failed: ".toList ++ fault.message
  | documentFile path fault => "cannot read document ".toList ++ path ++ ": ".toList ++ fault.message
  | documentRegion path fault => path ++ ": ".toList ++ fault.message

/-- What was resolved for a target. -/
structure TargetReport where
  baseType : Text
  document : Text
  resolution : Resolution
deriving DecidableEq

/-- What happened to a document. -/
structure DocumentReport where
  path : Text
  action : Document.Action
  /-- The document has another content than before. -/
  changed : Bool
  /-- The number of declared types. -/
  mappings : Nat
deriving DecidableEq

/-- The totals of a run. -/
structure Summary where
  /-- URL patterns of the targets that count them. -/
  mappingsGenerated : Nat
  /-- Candidates without a route of the targets that count them. -/
  skipped : Nat
  /-- URL patterns of elevated mappings of the targets that count them. -/
  elevated : Nat
  documents : List DocumentReport
  scan : ScanStats
deriving DecidableEq

/-- Scans the artifacts. -/
def scan (config : Config) (reader : ArtifactReader) (artifacts : List Text) :
    Except Fault Scan :=
  match config.scanOptions with
  | .error fault => .error (.filter fault)
  | .ok options => .ok (Scan.run reader options artifacts)

/-- Resolves the routes for one target. -/
def resolveTarget (config : Config) (scan : Scan) (target : Target) :
    Except Fault TargetReport :=
  match config.routePolicy.resolve scan.store (scan.index.subtypesOf target.baseType) with
  | .error fault => .error (.route fault)
  | .ok resolution => .ok ⟨target.baseType, target.path, resolution⟩

/-- Resolves the routes for targets one after the other. -/
def resolve (config : Config) (scan : Scan) : List Target → Except Fault (List TargetReport)
  | [] => .ok []
  | target :: targets =>
    match resolveTarget config scan target with
    | .error fault => .error fault
    | .ok report => (resolve config scan targets).map (report :: ·)

/-- Scans and resolves, and touches no document. -/
def inspect (config : Config) (reader : ArtifactReader) (artifacts : List Text)
    (targets : List Target) : Except Fault (List TargetReport) :=
  match scan config reader artifacts with
  | .error fault => .error fault
  | .ok scan => resolve config scan targets

/-- A document that is ready to be written. -/
structure Draft where
  target : Target
  resolution : Resolution
  /-- The text before. -/
  old : Text
  /-- The text to be and what was done to it. -/
  updated : Document.Updated
deriving DecidableEq

namespace Draft

/-- The document gets another content. -/
def changed (d : Draft) : Bool := d.updated.text ≠ d.old

/-- What happens to the document. -/
def report (d : Draft) : DocumentReport :=
  ⟨d.target.path, d.updated.action, d.changed, d.resolution.mappings.length⟩

end Draft

/-- Updates the document of one target, without writing it. -/
def draft (tree : FileTree) (target : Target) (report : TargetReport) : Except Fault Draft :=
  match tree.textAt target.path with
  | .error fault => .error (.documentFile target.path fault)
  | .ok old =>
    let fragment := target.shape.render report.resolution.mappings (.detect old)
    match Document.update target.layout fragment old with
    | .error fault => .error (.documentRegion target.path fault)
    | .ok updated => .ok ⟨target, report.resolution, old, updated⟩

/-- Updates the documents of targets one after the other, without writing them. -/
def drafts (tree : FileTree) : List (Target × TargetReport) → Except Fault (List Draft)
  | [] => .ok []
  | (target, report) :: rest =>
    match draft tree target report with
    | .error fault => .error fault
    | .ok first => (drafts tree rest).map (first :: ·)

/-- Writes the changed documents in order. -/
def write (tree : FileTree) (drafts : List Draft) : FileTree :=
  drafts.foldl (fun t d => if d.changed then t.writeText d.target.path d.updated.text else t) tree

/-- A total over the documents that count for it. -/
def tallied (counts : Tally → Bool) (number : Resolution → Nat) (drafts : List Draft) : Nat :=
  total (fun d => number d.resolution) (drafts.filter fun d => counts d.target.tally)

/-- The totals of a run. -/
def summary (stats : ScanStats) (drafts : List Draft) : Summary where
  mappingsGenerated := tallied Tally.mappings Resolution.patternCount drafts
  skipped := tallied Tally.skipped (fun r => r.skipped.length) drafts
  elevated := tallied Tally.elevated Resolution.elevatedPatternCount drafts
  documents := drafts.map Draft.report
  scan := stats

/-- Brings the documents of the targets up to date. -/
def run (config : Config) (reader : ArtifactReader) (tree : FileTree) (artifacts : List Text)
    (targets : List Target) : Except Fault (FileTree × Summary) :=
  match scan config reader artifacts with
  | .error fault => .error fault
  | .ok scan =>
    match resolve config scan targets with
    | .error fault => .error fault
    | .ok reports =>
      -- every document is read before the first one is written
      match drafts tree (targets.zip reports) with
      | .error fault => .error fault
      | .ok drafts => .ok (write tree drafts, summary scan.stats drafts)

/-- The reports of an inspection in their printed form. -/
def TargetReport.json (r : TargetReport) : Json.Report :=
  .object [
    ("base_type", .text r.baseType),
    ("document", .text r.document),
    ("resolution", .object [
      ("mappings", .list (r.resolution.mappings.map fun m => .object [
        ("type_name", .text m.typeName),
        ("synthetic_name", .text m.servletName),
        ("patterns", .list (m.patterns.map .text)),
        ("requires_elevated_role", .boolean m.elevated)])),
      ("skipped", .list (r.resolution.skipped.map .text))])]

end ServletRoutes.Generate
