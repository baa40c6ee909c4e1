import Mathlib.Logic.Relation
import ServletRoutes.Proofs.Scan.Contents
import ServletRoutes.Proofs.Scan.Merging

/-!
# `ServletRoutes.Proofs.Scan.Workers`: artifacts read by several workers

Every artifact has a slot, and workers take the slots in any order. A worker
without an artifact takes one that is waiting; a worker that has read its
artifact leaves what it read in the slot of the artifact. `Step` is one such
move of any worker, with no more artifacts taken than there are workers, so a
run of steps is any schedule.

A step leaves what the slots come to (`Step.outcomes_eq`), and so does a run
(`outcomes_eq_of_run`): when all slots are done, they hold what reading one
artifact after the other gives. Each step brings the slots closer to that
(`Step.remaining_lt`), and with at least one worker there is a step until all
are done (`exists_step`). So every schedule ends, wherever it has got to
(`wellFounded_step`, `exists_run_done`).

`scan_performed` puts this together with the loop that merges the readings.
-/

set_option autoImplicit false

namespace ServletRoutes

/-- The number of workers, when artifacts are read at once. A number that is not fixed, or fixed as
zero, stands for the usual one. -/
def ScanOptions.workers? (options : ScanOptions) (usual : Nat) : Option Nat :=
  if options.parallel then
    match options.threads with
    | none | some 0 => some usual
    | some threads => some threads
  else none

namespace Scan

open Relation (ReflTransGen)

/-! ### Slots -/

/-- Where the reading of an artifact has got to. -/
inductive Slot
  | waiting (artifact : Text)
  /-- A worker is reading the artifact. -/
  | taken (artifact : Text)
  /-- A worker has left what it read, or that nothing could be read. -/
  | done (reading : Option ArtifactScan)

namespace Slot

variable {read : Text → Option ArtifactScan} {workers : Nat} {slots slots' : List Slot}

/-- What a slot comes to. -/
def outcome (read : Text → Option ArtifactScan) : Slot → Option ArtifactScan
  | waiting artifact | taken artifact => read artifact
  | done reading => reading

/-- The number of workers that a slot keeps busy. -/
def busy : Slot → Nat
  | taken _ => 1
  | waiting _ | done _ => 0

/-- The number of steps that a slot still needs. -/
def remaining : Slot → Nat
  | waiting _ => 2
  | taken _ => 1
  | done _ => 0

/-- One worker takes an artifact that is waiting, or leaves what it read. -/
inductive Step (read : Text → Option ArtifactScan) (workers : Nat) : List Slot → List Slot → Prop
  | take (before after : List Slot) (artifact : Text)
      (free : total busy (before ++ waiting artifact :: after) < workers) :
      Step read workers (before ++ waiting artifact :: after) (before ++ taken artifact :: after)
  | leave (before after : List Slot) (artifact : Text) :
      Step read workers (before ++ taken artifact :: after)
        (before ++ done (read artifact) :: after)

/-- Any number of steps, of any workers. -/
abbrev Run (read : Text → Option ArtifactScan) (workers : Nat) : List Slot → List Slot → Prop :=
  ReflTransGen (Step read workers)

/-- A step leaves what the slots come to. -/
theorem Step.outcomes_eq (h : Step read workers slots slots') :
    slots'.map (outcome read) = slots.map (outcome read) := by
  cases h with
  | take before after artifact free => simp only [List.map_append, List.map_cons, outcome]
  | leave before after artifact => simp only [List.map_append, List.map_cons, outcome]

/-- A run leaves what the slots come to. -/
theorem outcomes_eq_of_run (h : Run read workers slots slots') :
    slots'.map (outcome read) = slots.map (outcome read) := by
  induction h with
  | refl => rfl
  | tail _ step ih => exact step.outcomes_eq.trans ih

/-- After a step fewer steps are needed. -/
theorem Step.remaining_lt (h : Step read workers slots slots') :
    total remaining slots' < total remaining slots := by
  cases h with
  | take before after artifact free =>
    simp only [total_append, total_cons, remaining]
    omega
  | leave before after artifact =>
    simp only [total_append, total_cons, remaining]
    omega

/-- No run goes on for ever. -/
theorem wellFounded_step (read : Text → Option ArtifactScan) (workers : Nat) :
    WellFounded fun slots' slots => Step read workers slots slots' :=
  Subrelation.wf Step.remaining_lt (measure (total remaining)).wf

/-- When a worker is busy, an artifact is taken. -/
theorem exists_taken (h : total busy slots ≠ 0) :
    ∃ before after artifact, slots = before ++ taken artifact :: after := by
  induction slots with
  | nil => exact absurd rfl h
  | cons slot slots ih =>
    cases slot with
    | taken artifact => exact ⟨[], slots, artifact, rfl⟩
    | waiting artifact =>
      obtain ⟨before, after, taken, rfl⟩ := ih (by simpa [busy] using h)
      exact ⟨_ :: before, after, taken, rfl⟩
    | done reading =>
      obtain ⟨before, after, taken, rfl⟩ := ih (by simpa [busy] using h)
      exact ⟨_ :: before, after, taken, rfl⟩

/-- Where every slot is done, the slots hold a list of readings. -/
theorem exists_done (h : ∀ slot ∈ slots, ∃ reading, slot = done reading) :
    ∃ readings : List (Option ArtifactScan), slots = readings.map done := by
  induction slots with
  | nil => exact ⟨[], rfl⟩
  | cons slot slots ih =>
    obtain ⟨reading, rfl⟩ := h slot List.mem_cons_self
    obtain ⟨readings, rfl⟩ := ih fun s hs => h s (List.mem_cons_of_mem _ hs)
    exact ⟨reading :: readings, rfl⟩

/-- With a worker there is a step, unless all slots are done. -/
theorem exists_step (hworkers : 0 < workers)
    (h : ∀ readings : List (Option ArtifactScan), slots ≠ readings.map done) :
    ∃ slots', Step read workers slots slots' := by
  by_cases hbusy : total busy slots = 0
  · -- every worker is free, and one of them can take what is not done
    have hopen : ¬ ∀ slot ∈ slots, ∃ reading, slot = done reading := by
      intro hdone
      obtain ⟨readings, hreadings⟩ := exists_done hdone
      exact h readings hreadings
    push Not at hopen
    obtain ⟨slot, hmem, hslot⟩ := hopen
    obtain ⟨before, after, rfl⟩ := List.append_of_mem hmem
    cases slot with
    | waiting artifact => exact ⟨_, .take before after artifact (by omega)⟩
    | taken artifact => exact ⟨_, .leave before after artifact⟩
    | done reading => exact absurd rfl (hslot reading)
  · obtain ⟨before, after, artifact, rfl⟩ := exists_taken hbusy
    exact ⟨_, .leave before after artifact⟩

/-- With a worker, all slots get done. -/
theorem exists_run_done (read : Text → Option ArtifactScan) (hworkers : 0 < workers)
    (slots : List Slot) :
    ∃ readings : List (Option ArtifactScan), Run read workers slots (readings.map done) := by
  induction slots using (wellFounded_step read workers).induction with
  | _ slots ih =>
    by_cases h : ∃ readings : List (Option ArtifactScan), slots = readings.map done
    · obtain ⟨readings, rfl⟩ := h
      exact ⟨readings, .refl⟩
    · push Not at h
      obtain ⟨slots', step⟩ := exists_step hworkers h
      obtain ⟨readings, run⟩ := ih slots' step
      exact ⟨readings, .head step run⟩

/-- What all slots come to in the end is what each artifact is read as. -/
theorem run_done_iff (hworkers : 0 < workers) (artifacts : List Text)
    (readings : List (Option ArtifactScan)) :
    Run read workers (artifacts.map waiting) (readings.map done) ↔
      readings = artifacts.map read := by
  have hend : ∀ readings : List (Option ArtifactScan),
      Run read workers (artifacts.map waiting) (readings.map done) →
        readings = artifacts.map read := by
    intro readings run
    have houtcomes := outcomes_eq_of_run run
    simpa [Function.comp_def, outcome] using houtcomes
  refine ⟨hend readings, ?_⟩
  rintro rfl
  obtain ⟨readings, run⟩ := exists_run_done read hworkers (artifacts.map waiting)
  rwa [hend readings run] at run

end Slot

/-! ### The scan -/

variable {reader : ArtifactReader} {options : ScanOptions} {usual : Nat}

/-- What comes of reading the artifacts, one after the other or by workers in any schedule. -/
def Reads (usual : Nat) (reader : ArtifactReader) (options : ScanOptions) (artifacts : List Text)
    (readings : List (Option ArtifactScan)) : Prop :=
  match options.workers? usual with
  | none => readings = artifacts.map (reading reader options.filter)
  | some workers =>
    Slot.Run (reading reader options.filter) workers (artifacts.map .waiting) (readings.map .done)

/-- A scan that is performed: the artifacts are read, and then the readings are merged. -/
def Performs (usual : Nat) (reader : ArtifactReader) (options : ScanOptions) (artifacts : List Text)
    (scan : Scan) : Prop :=
  ∃ readings, Reads usual reader options artifacts readings ∧ scan = merge options.scanners readings

/-- With at least one worker as usual there is at least one. -/
theorem workers?_pos (husual : 0 < usual) :
    ∀ workers, options.workers? usual = some workers → 0 < workers := by
  intro workers h
  unfold ScanOptions.workers? at h
  split at h
  · split at h <;> simp_all
    omega
  · cases h

/-- However the artifacts are read, the readings are the same. -/
theorem reads_iff (husual : 0 < usual) (artifacts : List Text)
    (readings : List (Option ArtifactScan)) :
    Reads usual reader options artifacts readings ↔
      readings = artifacts.map (reading reader options.filter) := by
  unfold Reads
  split
  next => exact Iff.rfl
  next workers h => exact Slot.run_done_iff (workers?_pos husual workers h) artifacts readings

/-- However the artifacts are read, the scan is the same. -/
theorem performs_iff (husual : 0 < usual) (artifacts : List Text) (scan : Scan) :
    Performs usual reader options artifacts scan ↔ scan = run reader options artifacts := by
  simp only [Performs, reads_iff husual, exists_eq_left, merge_eq]
  rfl

/-- No reader takes the artifact, or reading it fails. -/
def Unreadable (reader : ArtifactReader) (filter : Filter) (artifact : Text) : Prop :=
  reader.canRead artifact = false ∨ reader.read? artifact filter = none

theorem reading_eq_none_iff {filter : Filter} {artifact : Text} :
    reading reader filter artifact = none ↔ Unreadable reader filter artifact := by
  rw [reading, Unreadable]
  cases reader.canRead artifact <;> simp

/-- Wherever an artifact that cannot be read is listed, it is only counted. -/
theorem run_insert {before after : List Text} {artifact : Text}
    (h : Unreadable reader options.filter artifact) :
    run reader options (before ++ artifact :: after) =
      (run reader options (before ++ after)).withUnreadable := by
  simp only [run, List.map_append, List.map_cons, reading_eq_none_iff.mpr h, ofReadings_insert]

/-- A scan is always performed, and in any schedule of any number of workers with the same result. It
tells what the artifacts hold that can be read, and an artifact that cannot be read, wherever it is
inserted, is only counted. -/
theorem scan_performed (reader : ArtifactReader) (options : ScanOptions) {usual : Nat}
    (husual : 0 < usual) (artifacts : List Text) :
    (∀ scan, Performs usual reader options artifacts scan ↔ scan = run reader options artifacts) ∧
    Tells options.scanners artifacts.length (artifacts.filterMap (reading reader options.filter))
      (run reader options artifacts) ∧
    ∀ before after artifact, artifacts = before ++ after →
      Unreadable reader options.filter artifact →
      ∀ scan, Performs usual reader options (before ++ artifact :: after) scan ↔
        scan = (run reader options artifacts).withUnreadable := by
  refine ⟨performs_iff husual artifacts, ?_, ?_⟩
  · have htells := tells_ofReadings options.scanners
      (artifacts.map (reading reader options.filter))
    rwa [List.filterMap_map, Function.id_comp, List.length_map] at htells
  · rintro before after artifact rfl hunreadable scan
    rw [performs_iff husual, run_insert hunreadable]

/-- A reader of two artifacts with a class `T`, annotated with `@R(["x", y])`. The artifact `c` is of
no kind that can be read, and the others fail to open. -/
def pairReader : ArtifactReader where
  canRead path := path ≠ ['c']
  read? path _ :=
    if path ∈ [['a'], ['b']] then
      some ⟨[⟨⟨['T'], [['B']]⟩,
        [⟨['R'], [("value".toList, .array [.text ['x'], .typeRef ['y']])]⟩]⟩], 1, 2⟩
    else none

/-- Two workers read two artifacts with the same class, and a third that fails between them. -/
theorem scan_performed_pair :
    let options : ScanOptions := ⟨.acceptAll, [.subtypes, .annotations], true, some 0⟩
    let scan := run pairReader options [['a'], ['b']]
    Performs 2 pairReader options [['a'], ['d'], ['b']] scan.withUnreadable ∧
      scan.store.values ⟨['T'], ['R']⟩ = [['x'], ['y'], ['x'], ['y']] ∧
      scan.stats = ⟨2, 0, 2, 2, 4, 4⟩ := by
  intro options scan
  have h := scan_performed pairReader options (by decide : 0 < 2) [['a'], ['b']]
  refine ⟨(h.2.2 [['a']] [['b']] ['d'] rfl (.inr (by decide)) _).mpr rfl, ?_, ?_⟩
  · decide +kernel
  · decide +kernel

end Scan

end ServletRoutes
