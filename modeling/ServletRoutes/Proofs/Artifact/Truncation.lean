import ServletRoutes.Proofs.Artifact.Archive
import ServletRoutes.Proofs.ClassFile.Truncation
import ServletRoutes.Scan

/-!
# `ServletRoutes.Proofs.Artifact.Truncation`: class files that were cut off

A class file that ends too early cannot be parsed, so its entry fails. It costs
an artifact nothing else: the artifact is read as it would be without the entry,
with one more failure counted (`ofOutcomes_failed`), and a scan of the artifact
has the same types and annotations (`ofReadings_withFailure`).

`read_truncated` states this for every class that can be laid out, every place
at which its file may be cut, and for archives as well as directories.
-/

set_option autoImplicit false

namespace ServletRoutes

/-- The same classes, with one more that could not be read. -/
def ArtifactScan.withFailure (s : ArtifactScan) : ArtifactScan := { s with failed := s.failed + 1 }

/-- The scan with one more class that could not be read. -/
def Scan.withFailure (scan : Scan) : Scan :=
  { scan with stats := { scan.stats with failed := scan.stats.failed + 1 } }

namespace Artifact

variable {filter : Filter} {name : Text} {cut : Bytes}

/-! ### One more failure -/

/-- One more failure is counted before or after an outcome. -/
theorem tally_withFailure (outcome : Outcome) (s : ArtifactScan) :
    tally outcome s.withFailure = (tally outcome s).withFailure := by
  cases outcome <;> rfl

/-- Wherever an entry that failed stands, it is only counted. -/
theorem ofOutcomes_failed (front back : List Outcome) :
    ofOutcomes (front ++ .failed :: back) = (ofOutcomes (front ++ back)).withFailure := by
  induction front with
  | nil => rfl
  | cons outcome front ih =>
    show tally outcome (ofOutcomes (front ++ .failed :: back)) = _
    rw [ih, tally_withFailure]
    rfl

/-- A failure in an artifact is counted in the scan of it and changes nothing else. -/
theorem ofReadings_withFailure (scanners : List ScannerKind) (before after : List (Option ArtifactScan))
    (s : ArtifactScan) :
    Scan.ofReadings scanners (before ++ some s.withFailure :: after) =
      (Scan.ofReadings scanners (before ++ some s :: after)).withFailure := by
  have hreadable (s : ArtifactScan) : (before ++ some s :: after).filterMap id =
      before.filterMap id ++ s :: after.filterMap id := by simp
  have hlength : (before ++ some s.withFailure :: after).length =
      (before ++ some s :: after).length := by simp
  generalize before.filterMap id = front at hreadable
  generalize after.filterMap id = back at hreadable
  have hcount : (front ++ s.withFailure :: back).length = (front ++ s :: back).length := by simp
  have hrecords : (front ++ s.withFailure :: back).flatMap (·.records) =
      (front ++ s :: back).flatMap (·.records) := by simp [ArtifactScan.withFailure]
  have hfiltered : total (·.filtered) (front ++ s.withFailure :: back) =
      total (·.filtered) (front ++ s :: back) := by simp [ArtifactScan.withFailure]
  have hfailed : total (·.failed) (front ++ s.withFailure :: back) =
      total (·.failed) (front ++ s :: back) + 1 := by
    simp only [total_append, total_cons, ArtifactScan.withFailure]
    omega
  simp only [Scan.ofReadings, hreadable, hlength, hcount, hrecords, hfiltered, hfailed,
    Scan.withFailure]

/-- An artifact is read like one without a certain entry, with one more failure. Scans of both have the
same types and annotations. -/
structure OneFailureMore (read without : Except Fault ArtifactScan) : Prop where
  read_eq : read = without.map ArtifactScan.withFailure
  scan_eq : ∀ s, without = .ok s → ∀ scanners before after,
    Scan.ofReadings scanners (before ++ read.toOption :: after) =
      (Scan.ofReadings scanners (before ++ some s :: after)).withFailure

/-- A scan with one more failure has one more. -/
theorem oneFailureMore_map (without : Except Fault ArtifactScan) :
    OneFailureMore (without.map ArtifactScan.withFailure) without where
  read_eq := rfl
  scan_eq := by
    rintro s rfl scanners before after
    exact ofReadings_withFailure scanners before after s

/-! ### Entries that were cut off -/

/-- An entry with bytes that are no class file fails, if it is looked at. -/
theorem outcome?_of_error {fault : ClassFile.Fault} (hresource : isClassResource name = true)
    (haccepted : filter.acceptsResource name = true) (hparse : ClassFile.parse cut = .error fault) :
    outcome? filter name (some cut) = some .failed := by
  simp [outcome?, hresource, haccepted, hparse]

/-- An entry that cannot be read fails, if it is looked at. -/
theorem outcome?_none (hresource : isClassResource name = true)
    (haccepted : filter.acceptsResource name = true) : outcome? filter name none = some .failed := by
  simp [outcome?, hresource, haccepted]

/-- Of the outcomes of several entries one is a failure. -/
theorem ofOutcomes_filterMap {α : Type} (outcomeOf : α → Option Outcome) {a : α}
    (h : outcomeOf a = some .failed) (front back : List α) :
    ofOutcomes ((front ++ a :: back).filterMap outcomeOf) =
      (ofOutcomes ((front ++ back).filterMap outcomeOf)).withFailure := by
  rw [List.filterMap_append, List.filterMap_append, List.filterMap_cons_some h, ofOutcomes_failed]

/-- An archive with an entry that fails is read like the one without it. -/
theorem ofArchive_of_failed {e : ArchiveEntry} {front back : Archive}
    (hopening : e.content ≠ .sealed)
    (h : outcome? filter e.name (entryBytes? e.content) = some .failed) :
    ofArchive filter (front ++ e :: back) =
      (ofArchive filter (front ++ back)).map ArtifactScan.withFailure := by
  have hsealed : ((front ++ e :: back).any fun e => e.content = .sealed) =
      (front ++ back).any fun e => e.content = .sealed := by
    simp [hopening]
  have houtcomes := ofOutcomes_filterMap
    (fun e : ArchiveEntry => outcome? filter e.name (entryBytes? e.content)) h front back
  rw [ofArchive, ofArchive, hsealed, houtcomes]
  split <;> rfl

/-- A class file that was laid out and then cut off anywhere is no class file: its bytes end.

Where it is what an entry of an archive is decompressed to, or such an entry cannot be read because its
checksum tells that something is missing, and the filter lets it pass, the archive is read as it would
be without the entry, with one more failure, and so is a directory with the file in it. A scan of such
an archive or directory has no other types and no other annotations for it. The archive may use any
methods of compression that there are decoders for. -/
theorem read_truncated (d : ClassFile.ClassDescription) (h : d.isWellFormed = true) (cut : Bytes)
    (hcut : cut <+: d.bytes) (hne : cut ≠ d.bytes) :
    ClassFile.parse cut = .error .endOfInput ∧
    ∀ (decoders : Archive.Decoders) (tree : FileTree) (path : Text) (place : Place) (filter : Filter),
      tree.locate path = .ok place →
      (∀ content front name entryContent back, tree.node? place = some (.file content) →
        Archive.mark <+: content →
        Archive.ofBytes? decoders content = some (front ++ ⟨name, entryContent⟩ :: back) →
        entryContent = .intact cut ∨ entryContent = .damaged →
        isClassResource name = true → filter.acceptsResource name = true →
        OneFailureMore (readWith decoders tree path filter) (ofArchive filter (front ++ back))) ∧
      ∀ front names back, tree.node? place = some .directory →
        tree.filesBelow place = front ++ (names, cut) :: back →
        isClassResource (resourceName names) = true →
        filter.acceptsResource (resourceName names) = true →
        OneFailureMore (readWith decoders tree path filter)
          (.ok (ofOutcomes ((front ++ back).filterMap fun (names, content) =>
            outcome? filter (resourceName names) (some content)))) := by
  have hparse := d.parse_of_prefix h hcut hne
  refine ⟨hparse, fun decoders tree path place filter hplace => ⟨?_, ?_⟩⟩
  · intro content front name entryContent back hnode hmark harchive hcontent hresource haccepted
    rw [readWith_eq_ofArchive filter hplace hnode hmark harchive]
    -- what is left is no class file, or the checksum has told before
    obtain rfl | rfl := hcontent
    · rw [ofArchive_of_failed EntryContent.noConfusion (outcome?_of_error hresource haccepted hparse)]
      exact oneFailureMore_map _
    · rw [ofArchive_of_failed EntryContent.noConfusion (outcome?_none hresource haccepted)]
      exact oneFailureMore_map _
  -- a directory has no checksums, so the file is read and found to be cut off
  · intro front names back hnode hfiles hresource haccepted
    have hread : readWith decoders tree path filter = .ok (ofDirectory filter tree place) := by
      rw [readWith, hplace]
      simp only [hnode]
    have houtcomes := ofOutcomes_filterMap (a := (names, cut))
      (fun (names, content) => outcome? filter (resourceName names) (some content))
      (outcome?_of_error hresource haccepted hparse) front back
    rw [hread, ofDirectory, hfiles, houtcomes]
    exact oneFailureMore_map (.ok _)

/-- A class without annotations. -/
def shortClass : ClassFile.ClassDescription :=
  ⟨"k/Short".toList, some "java/lang/Object".toList, [], []⟩

/-- Its class file without the last byte, which is part of the number of attributes. -/
def shortBytes : Bytes := shortClass.bytes.dropLast

/-- A class next to one whose file was cut off, both deflated. -/
def shortEntries : List StoredEntry := [
  .deflated "k/Good.class".toList (classBytes "k/Good"),
  .deflated "k/Short.class".toList shortBytes]

/-- One byte is enough for the class to be lost, and the other one is kept. -/
theorem read_truncated_lastByte :
    shortClass.isWellFormed = true ∧ shortBytes <+: shortClass.bytes ∧
      shortBytes ≠ shortClass.bytes ∧ ClassFile.parse shortBytes = .error .endOfInput ∧
      ∃ s, read (oneArchive shortEntries) "a.jar".toList .acceptAll = .ok s ∧
        s.records.map (·.declaration) = [⟨"k.Good".toList, ["java.lang.Object".toList]⟩] ∧
        s.filtered = 0 ∧ s.failed = 1 := by
  have h : shortClass.isWellFormed = true := by decide +kernel
  have hcut : shortBytes <+: shortClass.bytes := List.dropLast_prefix _
  have hne : shortBytes ≠ shortClass.bytes := by decide +kernel
  have harchive : Archive.ofBytes? .standard (Archive.bytesOf shortEntries) =
      some ([⟨"k/Good.class".toList, .intact (classBytes "k/Good")⟩] ++
        ⟨"k/Short.class".toList, .intact shortBytes⟩ :: []) := by
    rw [Archive.ofBytes?_bytesOf .standard (by decide +kernel), shortEntries, List.map_cons,
      List.map_singleton, StoredEntry.opened_deflated, StoredEntry.opened_deflated]
    rfl
  obtain ⟨hparse, hread⟩ := read_truncated shortClass h shortBytes hcut hne
  have hfailure := ((hread .standard _ _ _ .acceptAll (locate_oneArchive shortEntries)).1 _ _ _ _ _
    (node?_oneArchive _) (Archive.mark_prefix_bytesOf _) harchive (.inl rfl) (by decide +kernel)
    rfl).read_eq
  refine ⟨h, hcut, hne, hparse, _, hfailure, ?_, ?_, ?_⟩
  all_goals decide +kernel

end Artifact

end ServletRoutes
