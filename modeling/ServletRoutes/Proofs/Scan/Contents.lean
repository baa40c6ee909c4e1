import ServletRoutes.Proofs.Scan

/-!
# `ServletRoutes.Proofs.Scan.Contents`: what a scan tells of its artifacts

`Tells` lists what a scan has for the artifacts that were read: the tokens of
every key, how many tokens there are, the index, and the counters. A scanner
that is left out leaves its part empty. `tells_ofReadings` says that every scan
tells this of the artifacts that can be read; one that cannot be read is only
counted (`ofReadings_insert`).
-/

set_option autoImplicit false

namespace ServletRoutes.Scan

open Annotations (Key Store)

variable {scanners : List ScannerKind} {readings : List (Option ArtifactScan)}

/-- The tokens of the `value` members that a class has in its annotations of a type. -/
def valueTokens (annotationType : Text) (record : ClassRecord) : List Text :=
  (record.annotations.filter (·.typeName = annotationType)).flatMap fun a =>
    match a.member? "value".toList with
    | none => []
    | some value => value.tokens

/-- What a scan tells of a number of artifacts, some of which were read. -/
structure Tells (scanners : List ScannerKind) (artifacts : Nat) (readable : List ArtifactScan)
    (scan : Scan) : Prop where
  /-- The values of an annotation on a type are those of the classes with its name, in their order. -/
  values : .annotations ∈ scanners → ∀ owner annotationType,
    scan.store.values ⟨owner, annotationType⟩ =
      ((readable.flatMap (·.records)).filter (·.declaration.name = owner)).flatMap
        (valueTokens annotationType)
  /-- The counted values are the tokens that the store holds in the end. -/
  counted : scan.stats.annotationValues = scan.store.tokenCount
  unrecorded : .annotations ∉ scanners → scan.store = .empty ∧ scan.stats.annotationValues = 0
  index : .subtypes ∈ scanners →
    scan.index = .ofDeclarations ((readable.flatMap (·.records)).map (·.declaration))
  unindexed : .subtypes ∉ scanners → scan.index = ⟨.empty, []⟩
  classes : scan.stats.classes = total (·.records.length) readable
  filtered : scan.stats.filtered = total (·.filtered) readable
  failed : scan.stats.failed = total (·.failed) readable
  unreadable : scan.stats.unreadable + readable.length = artifacts
  artifacts : scan.stats.artifacts = artifacts

/-- A class adds the tokens of its `value` members to the keys of its own name. -/
theorem tokensFor_eq (h : .annotations ∈ scanners) (owner annotationType : Text)
    (record : ClassRecord) :
    tokensFor scanners ⟨owner, annotationType⟩ record =
      if record.declaration.name = owner then valueTokens annotationType record else [] := by
  rw [tokensFor, if_pos h, recordings, valueTokens]
  generalize "value".toList = member
  split
  next howner =>
    induction record.annotations with
    | nil => rfl
    | cons a annotations ih =>
      rw [List.filterMap_cons, List.filter_cons]
      by_cases htype : a.typeName = annotationType <;> cases hvalue : a.member? member <;>
        simp_all
  next howner =>
    refine List.flatMap_eq_nil_iff.mpr fun r hr => ?_
    obtain ⟨a, -, hrecorded⟩ := List.mem_filterMap.mp hr
    obtain ⟨value, -, rfl⟩ := Option.map_eq_some_iff.mp hrecorded
    exact if_neg fun hkey => howner (congrArg Key.owner hkey)

/-- The tokens of a key are those of the classes with the name of its owner. -/
theorem flatMap_tokensFor (h : .annotations ∈ scanners) (owner annotationType : Text)
    (rs : List ClassRecord) :
    rs.flatMap (tokensFor scanners ⟨owner, annotationType⟩) =
      (rs.filter (·.declaration.name = owner)).flatMap (valueTokens annotationType) := by
  induction rs with
  | nil => rfl
  | cons record rs ih =>
    rw [List.flatMap_cons, tokensFor_eq h, ih, List.filter_cons]
    by_cases howner : record.declaration.name = owner <;> simp [howner]

/-- A scan tells this of the artifacts that can be read. -/
theorem tells_ofReadings (scanners : List ScannerKind) (readings : List (Option ArtifactScan)) :
    Tells scanners readings.length (readings.filterMap id) (ofReadings scanners readings) where
  values h owner annotationType := by
    rw [values_ofReadings, flatMap_tokensFor h]
    rfl
  counted := by
    simp only [ofReadings, Store.tokenCount_foldl_record]
    exact (Nat.zero_add _).symm
  unrecorded h := by simp [ofReadings, h]
  index h := by
    rw [index_ofReadings, declarations, if_pos h]
    rfl
  unindexed h := by
    rw [index_ofReadings, declarations, if_neg h]
    rfl
  classes := List.length_flatMap
  filtered := rfl
  failed := rfl
  unreadable := Nat.sub_add_cancel (List.length_filterMap_le id readings)
  artifacts := rfl

/-- The scan with one more artifact that cannot be read. -/
def withUnreadable (scan : Scan) : Scan :=
  { scan with
    stats := { scan.stats with
      artifacts := scan.stats.artifacts + 1
      unreadable := scan.stats.unreadable + 1 } }

/-- Wherever an artifact that cannot be read stands, it is only counted. -/
theorem ofReadings_insert (before after : List (Option ArtifactScan)) :
    ofReadings scanners (before ++ none :: after) =
      (ofReadings scanners (before ++ after)).withUnreadable := by
  have hreadable : (before ++ none :: after).filterMap id = (before ++ after).filterMap id := by
    simp
  have hle := List.length_filterMap_le id (before ++ after)
  have hlength : (before ++ none :: after).length = (before ++ after).length + 1 := by
    simp only [List.length_append, List.length_cons]
    omega
  have hunreadable : (before ++ after).length + 1 - ((before ++ after).filterMap id).length =
      (before ++ after).length - ((before ++ after).filterMap id).length + 1 := by omega
  simp only [ofReadings, withUnreadable, hreadable, hlength, hunreadable]

end ServletRoutes.Scan
