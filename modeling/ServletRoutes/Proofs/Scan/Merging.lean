import ServletRoutes.Proofs.Scan
import ServletRoutes.Scan.Merging

/-!
# `ServletRoutes.Proofs.Scan.Merging`: the merging loop gives the scan

The readings are merged in one pass: over the artifacts, their classes and the
annotations of these. What a pass over annotations or classes adds is said with
the lists that a scan is made of (`withValues`, `withRecords`), and after each
artifact the counters, the declarations and the store are those of the scan of
the artifacts so far (`addReading_ofReadings`). So the loop gives the scan of
all of them (`merge_eq`).

The count of values goes up by what the store returns for each of them; nothing
is counted twice when a class or an annotation stands twice, because each value
is recorded and counted in one step (`foldl_addAnnotated`).
-/

set_option autoImplicit false

namespace ServletRoutes

namespace Scan

open Annotations (Key Value Store)

variable {scanners : List ScannerKind} {readings : List (Option ArtifactScan)}

namespace Merging

/-- The values that are recorded of classes. -/
def recorded (scanners : List ScannerKind) (records : List ClassRecord) : List (Key × Value) :=
  if .annotations ∈ scanners then records.flatMap recordings else []

/-- What has been merged when values have been recorded. -/
def withValues (m : Merging) (values : List (Key × Value)) : Merging :=
  { m with
    stats := { m.stats with
      annotationValues := m.stats.annotationValues + total (fun r => r.2.tokens.length) values }
    store := values.foldl (fun s r => s.record r.1 r.2) m.store }

/-- What has been merged when classes have been added. -/
def withRecords (scanners : List ScannerKind) (m : Merging) (records : List ClassRecord) : Merging :=
  let m := m.withValues (recorded scanners records)
  { m with
    stats := { m.stats with classes := m.stats.classes + records.length }
    declarations := m.declarations ++ Scan.declarations scanners records }

/-- What has been merged after some readings. -/
def ofReadings (scanners : List ScannerKind) (readings : List (Option ArtifactScan)) : Merging where
  stats := { (Scan.ofReadings scanners readings).stats with artifacts := 0 }
  declarations := Scan.declarations scanners (records readings)
  store := (Scan.ofReadings scanners readings).store

/-- The loop over the annotations of a class records their values. -/
theorem foldl_addAnnotated (m : Merging) (record : ClassRecord) :
    record.annotations.foldl (addAnnotated record.declaration.name) m =
      m.withValues (recordings record) := by
  unfold recordings
  induction record.annotations generalizing m with
  | nil => rfl
  | cons a annotations ih =>
    rw [List.foldl_cons, ih, addAnnotated, List.filterMap_cons]
    cases a.member? "value".toList with
    | none => rfl
    | some value =>
      simp only [Store.recordCounted_eq, Option.map_some, withValues, List.foldl_cons, total_cons,
        Nat.add_assoc]

/-- A class is added. -/
theorem addRecord_eq (m : Merging) (record : ClassRecord) :
    addRecord scanners m record = m.withRecords scanners [record] := by
  by_cases hannotations : .annotations ∈ scanners <;> by_cases hsubtypes : .subtypes ∈ scanners <;>
    simp [addRecord, withRecords, recorded, Scan.declarations, withValues, foldl_addAnnotated,
      hannotations, hsubtypes]

/-- Classes that are added after others. -/
theorem withRecords_withRecords (m : Merging) (rs rs' : List ClassRecord) :
    (m.withRecords scanners rs).withRecords scanners rs' = m.withRecords scanners (rs ++ rs') := by
  by_cases hannotations : .annotations ∈ scanners <;> by_cases hsubtypes : .subtypes ∈ scanners <;>
    simp [withRecords, recorded, Scan.declarations, withValues, Nat.add_assoc,
      hannotations, hsubtypes]

/-- The loop over the classes of an artifact adds them. -/
theorem foldl_addRecord (m : Merging) (rs : List ClassRecord) :
    rs.foldl (addRecord scanners) m = m.withRecords scanners rs := by
  induction rs generalizing m with
  | nil => simp [withRecords, recorded, Scan.declarations, withValues]
  | cons record rs ih =>
    rw [List.foldl_cons, ih, addRecord_eq, withRecords_withRecords, List.singleton_append]

/-- The next reading is added to those before it. -/
theorem addReading_ofReadings (reading : Option ArtifactScan) :
    (ofReadings scanners readings).addReading scanners reading =
      ofReadings scanners (readings ++ [reading]) := by
  cases reading with
  | none =>
    have hle : (readings.filterMap id).length ≤ readings.length := List.length_filterMap_le ..
    have hreadable : (readings ++ [none]).filterMap id = readings.filterMap id := by simp
    have hunreadable : readings.length - (readings.filterMap id).length + 1 =
        (readings ++ [none]).length - (readings.filterMap id).length := by
      rw [List.length_append, List.length_singleton]
      omega
    simp only [addReading, ofReadings, Scan.ofReadings, records, hreadable, hunreadable]
  | some scan =>
    -- each scanner adds to its own part, whether the other one is at work or not
    by_cases hannotations : .annotations ∈ scanners <;>
      by_cases hsubtypes : .subtypes ∈ scanners <;>
      simp [addReading, ofReadings, Scan.ofReadings, records, foldl_addRecord, withRecords,
        recorded, withValues, Scan.declarations, hannotations, hsubtypes]

end Merging

/-- Merging the readings one by one gives the scan that is made of them. -/
theorem merge_eq (scanners : List ScannerKind) (readings : List (Option ArtifactScan)) :
    merge scanners readings = ofReadings scanners readings := by
  have hloop : readings.foldl (Merging.addReading scanners) .start =
      Merging.ofReadings scanners readings := by
    induction readings using List.reverseRecOn with
    | nil =>
      by_cases hannotations : .annotations ∈ scanners <;>
        by_cases hsubtypes : .subtypes ∈ scanners <;>
        simp [Merging.start, Merging.ofReadings, ofReadings, records, declarations, hannotations,
          hsubtypes]
    | append_singleton readings reading ih =>
      rw [List.foldl_append, ih, List.foldl_cons, List.foldl_nil, Merging.addReading_ofReadings]
  rw [merge, hloop]
  rfl

end Scan

end ServletRoutes
