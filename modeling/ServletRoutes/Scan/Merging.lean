import ServletRoutes.Scan

/-!
# `ServletRoutes.Scan.Merging`: readings merged one by one

The readings of the artifacts are gone through once, in the order of the artifacts. On the way the
counters go up, declarations are put down for the index, and values go into the store. How many
tokens a value adds is told by the store when it records the value.
-/

set_option autoImplicit false

namespace ServletRoutes

namespace Scan

/-- How far the readings have been merged. -/
structure Merging where
  /-- The counters so far. The artifacts are counted at the end. -/
  stats : ScanStats
  /-- The declarations for the index. -/
  declarations : List TypeDeclaration
  store : Annotations.Store

namespace Merging

/-- Before the first reading. -/
def start : Merging := ⟨⟨0, 0, 0, 0, 0, 0⟩, [], .empty⟩

/-- Records the `value` member of an annotation, if it has one. -/
def addAnnotated (owner : Text) (m : Merging) (a : Annotations.Declared) : Merging :=
  match a.member? "value".toList with
  | none => m
  | some value =>
    let (store, added) := m.store.recordCounted ⟨owner, a.typeName⟩ value
    { m with
      stats := { m.stats with annotationValues := m.stats.annotationValues + added }
      store }

/-- Adds a class, as far as the scanners ask for it. -/
def addRecord (scanners : List ScannerKind) (m : Merging) (record : ClassRecord) : Merging :=
  let counted := { m with stats := { m.stats with classes := m.stats.classes + 1 } }
  let recorded :=
    if .annotations ∈ scanners then
      record.annotations.foldl (addAnnotated record.declaration.name) counted
    else counted
  if .subtypes ∈ scanners then
    { recorded with declarations := recorded.declarations ++ [record.declaration] }
  else recorded

/-- Adds what was read from an artifact, or counts one that could not be read. -/
def addReading (scanners : List ScannerKind) (m : Merging) : Option ArtifactScan → Merging
  | none => { m with stats := { m.stats with unreadable := m.stats.unreadable + 1 } }
  | some scan =>
    scan.records.foldl (addRecord scanners)
      { m with
        stats := { m.stats with
          filtered := m.stats.filtered + scan.filtered
          failed := m.stats.failed + scan.failed } }

/-- The scan that comes of it, for a number of artifacts. -/
def finish (m : Merging) (artifacts : Nat) : Scan where
  index := .ofDeclarations m.declarations
  store := m.store
  stats := { m.stats with artifacts }

end Merging

/-- Merges what was read from the artifacts. -/
def merge (scanners : List ScannerKind) (readings : List (Option ArtifactScan)) : Scan :=
  (readings.foldl (Merging.addReading scanners) .start).finish readings.length

end Scan

end ServletRoutes
