import ServletRoutes.Proofs.Annotations.Store
import ServletRoutes.Proofs.TypeIndex
import ServletRoutes.Scan

/-!
# `ServletRoutes.Proofs.Scan`: a scan in terms of its class records

A scan is made of the class records of the artifacts that can be read, one
after the other. The store has for every key the tokens of these records in
their order (`values_ofReadings`), so a record that comes twice is stored
twice. The index only depends on which records there are
(`agrees_ofReadings`). In another order or from other artifacts the records
give a store with the same tokens in another order (`permuted_ofReadings`)
and the same counters (`classes_ofReadings_perm`,
`annotationValues_ofReadings_perm`).
-/

set_option autoImplicit false

namespace ServletRoutes.Scan

open Annotations (Key Value Store)

variable {scanners : List ScannerKind} {readings readings' : List (Option ArtifactScan)} {key : Key}

/-- The class records of the artifacts that can be read. -/
def records (readings : List (Option ArtifactScan)) : List ClassRecord :=
  (readings.filterMap id).flatMap (·.records)

/-- The records of more artifacts follow those of the first ones. -/
theorem records_append (readings readings' : List (Option ArtifactScan)) :
    records (readings ++ readings') = records readings ++ records readings' := by
  rw [records, List.filterMap_append, List.flatMap_append, records, records]

/-- The records of some of the artifacts are among those of all. -/
theorem records_subset (h : ∀ reading ∈ readings', reading ∈ readings) :
    ∀ record ∈ records readings', record ∈ records readings := by
  intro record hrecord
  obtain ⟨scan, hscan, hin⟩ := List.mem_flatMap.mp hrecord
  obtain ⟨reading, hreading, rfl⟩ := List.mem_filterMap.mp hscan
  exact List.mem_flatMap.mpr ⟨scan, List.mem_filterMap.mpr ⟨_, h _ hreading, rfl⟩, hin⟩

/-- Artifacts in another order hold the same records. -/
theorem records_perm (h : readings.Perm readings') : (records readings).Perm (records readings') :=
  (h.filterMap id).flatMap_right _

/-! ### The store -/

/-- The tokens that a record adds to a key. -/
def tokensFor (scanners : List ScannerKind) (key : Key) (record : ClassRecord) : List Text :=
  if .annotations ∈ scanners then
    (recordings record).flatMap fun r => if r.1 = key then r.2.tokens else []
  else []

/-- The store has for every key the tokens of the records, in their order. -/
theorem values_ofReadings :
    (ofReadings scanners readings).store.values key =
      (records readings).flatMap (tokensFor scanners key) := by
  simp only [ofReadings, Store.values_foldl_record, Store.values_empty, List.nil_append]
  unfold tokensFor Store.tokensIn
  split
  next h => rw [List.flatMap_assoc]; rfl
  next h => simp

/-- The tokens of more artifacts follow those of the first ones. -/
theorem values_run_append (reader : ArtifactReader) (options : ScanOptions)
    (artifacts artifacts' : List Text) (key : Key) :
    (run reader options (artifacts ++ artifacts')).store.values key =
      (run reader options artifacts).store.values key ++
        (run reader options artifacts').store.values key := by
  simp only [run, values_ofReadings, List.map_append, records_append, List.flatMap_append]

/-- The tokens of some of the artifacts are among those of all. -/
theorem values_run_subset (reader : ArtifactReader) (options : ScanOptions)
    {artifacts artifacts' : List Text} (h : ∀ a ∈ artifacts', a ∈ artifacts) (key : Key) :
    ∀ t ∈ (run reader options artifacts').store.values key,
      t ∈ (run reader options artifacts).store.values key := by
  simp only [run, values_ofReadings]
  intro t ht
  obtain ⟨record, hrecord, ht⟩ := List.mem_flatMap.mp ht
  exact List.mem_flatMap.mpr ⟨record, records_subset (List.map_subset _ h) record hrecord, ht⟩

/-- The store has for every key the tokens of the artifacts, in their order. -/
theorem values_run_eq_flatMap (reader : ArtifactReader) (options : ScanOptions)
    (artifacts : List Text) (key : Key) :
    (run reader options artifacts).store.values key =
      artifacts.flatMap fun a => (run reader options [a]).store.values key := by
  induction artifacts with
  | nil =>
    rw [run, values_ofReadings]
    rfl
  | cons a artifacts ih =>
    rw [← List.singleton_append, values_run_append, ih, List.flatMap_append, List.flatMap_singleton]

/-- The same records in another order leave every key with its tokens in another order. -/
theorem permuted_ofReadings (h : (records readings).Perm (records readings')) :
    (ofReadings scanners readings).store.Permuted (ofReadings scanners readings').store := by
  intro key
  rw [values_ofReadings, values_ofReadings]
  exact h.flatMap_right _

/-! ### The counters -/

/-- The same records are equally many classes. -/
theorem classes_ofReadings_perm (h : (records readings).Perm (records readings')) :
    (ofReadings scanners readings).stats.classes = (ofReadings scanners readings').stats.classes :=
  h.length_eq

/-- The same records have equally many tokens. -/
theorem annotationValues_ofReadings_perm (h : (records readings).Perm (records readings')) :
    (ofReadings scanners readings).stats.annotationValues =
      (ofReadings scanners readings').stats.annotationValues := by
  have hrecorded : ((records readings).flatMap recordings).Perm
      ((records readings').flatMap recordings) := h.flatMap_right _
  simp only [ofReadings]
  split
  · exact (hrecorded.map _).sum_nat
  · rfl

/-! ### The index -/

/-- The declarations that a scan indexes. -/
def declarations (scanners : List ScannerKind) (records : List ClassRecord) :
    List TypeDeclaration :=
  if .subtypes ∈ scanners then records.map (·.declaration) else []

theorem index_ofReadings :
    (ofReadings scanners readings).index =
      .ofDeclarations (declarations scanners (records readings)) := rfl

/-- Scans that read the same records, each any number of times, agree on names and links. -/
theorem agrees_ofReadings (h : ∀ record, record ∈ records readings ↔ record ∈ records readings') :
    (ofReadings scanners readings).index.Agrees (ofReadings scanners readings').index := by
  have hdeclared : ∀ d, d ∈ declarations scanners (records readings) ↔
      d ∈ declarations scanners (records readings') := by
    intro d
    unfold declarations
    split
    · simp only [List.mem_map, h]
    · exact Iff.rfl
  simp only [index_ofReadings, TypeIndex.ofDeclarations]
  constructor
  · intro name
    simp only [NameSet.mem_ofList, List.mem_flatMap, hdeclared]
  · intro link
    simp only [List.mem_flatMap, hdeclared]

/-- Listing artifacts again adds no names and no links. -/
theorem agrees_run_append (reader : ArtifactReader) (options : ScanOptions)
    {artifacts artifacts' : List Text} (h : ∀ a ∈ artifacts', a ∈ artifacts) :
    (run reader options (artifacts ++ artifacts')).index.Agrees
      (run reader options artifacts).index := by
  refine agrees_ofReadings fun record => ?_
  rw [List.map_append, records_append, List.mem_append, or_iff_left_iff_imp]
  exact records_subset (List.map_subset _ h) record

end ServletRoutes.Scan
