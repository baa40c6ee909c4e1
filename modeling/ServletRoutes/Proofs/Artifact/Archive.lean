import Mathlib.Data.List.Count
import ServletRoutes.Artifact.Basic
import ServletRoutes.ClassFile.Assembly
import ServletRoutes.Proofs.Archive.Storing

/-!
# `ServletRoutes.Proofs.Artifact.Archive`: what an entry costs an archive

A class resource of an archive that the filter lets pass is read or counted
as failed, one that the filter keeps out is counted as filtered, and other
entries do nothing (`fate_outcome?`). The tallies of a whole archive follow
entry by entry (`tallies_archive`), so an entry that is damaged or no class
costs only itself.

An entry that does not open costs the whole archive, whatever its name is:
`read_archive` says that an archive is read exactly when all its entries
open, and what is read then.
-/

set_option autoImplicit false

namespace ServletRoutes.Artifact

variable {filter : Filter} {e : ArchiveEntry} {archive : Archive} {decoders : Archive.Decoders}

/-! ### Single entries -/

/-- A class resource that the filter lets pass. -/
def isSelected (filter : Filter) (e : ArchiveEntry) : Bool :=
  isClassResource e.name && filter.acceptsResource e.name

/-- A class resource that the filter keeps out. -/
def isFilteredOut (filter : Filter) (e : ArchiveEntry) : Bool :=
  isClassResource e.name && !filter.acceptsResource e.name

/-- The class that the bytes of an entry hold, if they can be read and parsed. -/
def classOf? (e : ArchiveEntry) : Option ClassRecord :=
  (entryBytes? e.content).bind fun bytes => (ClassFile.parse bytes).toOption

/-- What becomes of an entry. -/
inductive Fate (filter : Filter) (e : ArchiveEntry) : Option Outcome → Prop
  | ignored (hselected : isSelected filter e = false) (hfiltered : isFilteredOut filter e = false) :
    Fate filter e none
  | filtered (hselected : isSelected filter e = false) (hfiltered : isFilteredOut filter e = true) :
    Fate filter e (some .filtered)
  | read (hselected : isSelected filter e = true) (hfiltered : isFilteredOut filter e = false)
    (record : ClassRecord) (hclass : classOf? e = some record) : Fate filter e (some (.read record))
  | failed (hselected : isSelected filter e = true) (hfiltered : isFilteredOut filter e = false)
    (hclass : classOf? e = none) : Fate filter e (some .failed)

/-- What comes of an entry is its fate. -/
theorem fate_outcome? (filter : Filter) (e : ArchiveEntry) :
    Fate filter e (outcome? filter e.name (entryBytes? e.content)) := by
  -- the cases are the checks in their order: the name, the filter, the bytes, the class
  unfold outcome?
  cases hresource : isClassResource e.name with
  | false => exact .ignored (by simp [isSelected, hresource]) (by simp [isFilteredOut, hresource])
  | true =>
    cases haccepted : filter.acceptsResource e.name with
    | false =>
      exact .filtered (by simp [isSelected, haccepted])
        (by simp [isFilteredOut, hresource, haccepted])
    | true =>
      have hselected : isSelected filter e = true := by simp [isSelected, hresource, haccepted]
      have hfiltered : isFilteredOut filter e = false := by simp [isFilteredOut, haccepted]
      cases hbytes : entryBytes? e.content with
      | none => exact .failed hselected hfiltered (by rw [classOf?, hbytes]; rfl)
      | some bytes =>
        have hclass : classOf? e = (ClassFile.parse bytes).toOption := by rw [classOf?, hbytes]; rfl
        cases hparse : ClassFile.parse bytes with
        | error fault =>
          rw [hparse] at hclass
          simp only [hparse, Bool.not_true, Bool.false_eq_true, if_false]
          exact .failed hselected hfiltered hclass
        | ok record =>
          rw [hparse] at hclass
          simp only [hparse, Bool.not_true, Bool.false_eq_true, if_false]
          exact .read hselected hfiltered record hclass

/-! ### Whole archives -/

/-- What the entries of an archive come to. -/
structure Tallies (filter : Filter) (archive : Archive) (s : ArtifactScan) : Prop where
  records : s.records = (archive.filter (isSelected filter)).filterMap classOf?
  filtered : s.filtered = archive.countP (isFilteredOut filter)
  failed : s.failed = (archive.filter (isSelected filter)).countP fun e => (classOf? e).isNone

/-- One more entry in front adds what becomes of it. -/
theorem Tallies.cons {s : ArtifactScan} {outcome? : Option Outcome}
    (h : Tallies filter archive s) (hfate : Fate filter e outcome?) :
    Tallies filter (e :: archive) (outcome?.elim s fun outcome => tally outcome s) := by
  cases hfate with
  | ignored hselected hfiltered =>
    exact ⟨by simp [h.records, hselected], by simp [h.filtered, hfiltered],
      by simp [h.failed, hselected]⟩
  | filtered hselected hfiltered =>
    exact ⟨by simp [tally, h.records, hselected], by simp [tally, h.filtered, hfiltered],
      by simp [tally, h.failed, hselected]⟩
  | read hselected hfiltered record hclass =>
    exact ⟨by simp [tally, h.records, hselected, hclass], by simp [tally, h.filtered, hfiltered],
      by simp [tally, h.failed, hselected, hclass]⟩
  | failed hselected hfiltered hclass =>
    exact ⟨by simp [tally, h.records, hselected, hclass], by simp [tally, h.filtered, hfiltered],
      by simp [tally, h.failed, hselected, hclass]⟩

/-- Counting what comes of the entries tallies the archive. -/
theorem tallies_archive (filter : Filter) (archive : Archive) :
    Tallies filter archive
      (ofOutcomes (archive.filterMap fun e => outcome? filter e.name (entryBytes? e.content))) := by
  induction archive with
  | nil => exact ⟨rfl, rfl, rfl⟩
  | cons e archive ih =>
    have hcons := ih.cons (fate_outcome? filter e)
    rw [List.filterMap_cons]
    cases houtcome : outcome? filter e.name (entryBytes? e.content) with
    | none => rwa [houtcome] at hcons
    | some outcome => rwa [houtcome] at hcons

/-- Each entry has a class or none. -/
theorem length_filterMap_add_countP (entries : List ArchiveEntry) :
    (entries.filterMap classOf?).length + (entries.countP fun e => (classOf? e).isNone) =
      entries.length := by
  induction entries with
  | nil => rfl
  | cons e entries ih =>
    rw [List.filterMap_cons, List.countP_cons, List.length_cons]
    cases hclass : classOf? e with
    | none =>
      simp only [Option.isNone_none, if_true]
      omega
    | some record =>
      simp only [List.length_cons, Option.isNone_some, Bool.false_eq_true, if_false]
      omega

/-- Each class resource passes the filter or is kept out. -/
theorem countP_selected_add_countP_filteredOut (filter : Filter) (archive : Archive) :
    archive.countP (isSelected filter) + archive.countP (isFilteredOut filter) =
      archive.countP fun e => isClassResource e.name := by
  induction archive with
  | nil => rfl
  | cons e archive ih =>
    rw [List.countP_cons, List.countP_cons, List.countP_cons, ← ih]
    cases hresource : isClassResource e.name <;> cases haccepted : filter.acceptsResource e.name <;>
      simp [isSelected, isFilteredOut, hresource, haccepted] <;> omega

/-- Every class resource is read or counted. -/
theorem Tallies.total {s : ArtifactScan} (h : Tallies filter archive s) :
    s.records.length + s.filtered + s.failed = archive.countP fun e => isClassResource e.name := by
  have hselected := length_filterMap_add_countP (archive.filter (isSelected filter))
  rw [← List.countP_eq_length_filter] at hselected
  rw [h.records, h.filtered, h.failed, ← countP_selected_add_countP_filteredOut filter archive]
  omega

/-! ### Files -/

/-- An end record has its place in the bytes. -/
theorem length_of_endRecord? {bytes record : Bytes} (h : Archive.endRecord? bytes = some record) :
    Archive.endRecordSize ≤ bytes.length := by
  refine Nat.le_of_not_lt fun hlt => ?_
  rw [Archive.endRecord?, Nat.sub_eq_zero_of_le hlt] at h
  simp at h

/-- An archive has room for an end record. -/
theorem length_of_ofBytes? {content : Bytes} (h : Archive.ofBytes? decoders content = some archive) :
    Archive.endRecordSize ≤ content.length := by
  rw [Archive.ofBytes?, Option.bind_eq_some_iff] at h
  obtain ⟨record, hrecord, -⟩ := h
  have hlast : (Archive.lastBytes content).length ≤ content.length := by
    rw [Archive.lastBytes, List.length_drop]
    exact Nat.sub_le _ _
  exact Nat.le_trans (length_of_endRecord? hrecord) hlast

/-- A file that begins like an archive is read as one. -/
theorem readWith_eq_ofArchive {tree : FileTree} {path : Text} {place : Place} {content : Bytes}
    (filter : Filter) (hplace : tree.locate path = .ok place)
    (hnode : tree.node? place = some (.file content))
    (hmark : Archive.mark <+: content) (harchive : Archive.ofBytes? decoders content = some archive) :
    readWith decoders tree path filter = ofArchive filter archive := by
  have hlength : 22 ≤ content.length := length_of_ofBytes? harchive
  obtain ⟨c, d, rest, rfl⟩ : ∃ c d rest, content = 0x50 :: 0x4B :: c :: d :: rest := by
    clear harchive hnode
    obtain ⟨rest, rfl⟩ := hmark
    match rest with
    | [] | [_] => simp [Archive.mark] at hlength
    | c :: d :: rest => exact ⟨c, d, rest, rfl⟩
  rw [readWith, hplace]
  simp only [hnode]
  rw [ofFile, if_pos (show [0x50, 0x4B] = Archive.mark from rfl), harchive]

/-- One entry that does not open fails the archive. -/
theorem ofArchive_of_sealed (h : ∃ e ∈ archive, e.content = .sealed) :
    ofArchive filter archive = .error .archive :=
  if_pos (by simpa using h)

/-- Where all entries open, the archive is read and tallied. -/
theorem ofArchive_of_opening (filter : Filter) (h : ∀ e ∈ archive, e.content ≠ .sealed) :
    ∃ s, ofArchive filter archive = .ok s ∧ Tallies filter archive s :=
  ⟨_, if_neg (by simpa using h), tallies_archive filter archive⟩

/-- An archive is read exactly when all its entries open. Then the records are the classes of the
class resources that pass the filter and can be read, in the order of the entries, and all other
class resources are counted. An entry that does not open costs the whole archive.

This holds whatever methods of compression there are decoders for, and whatever these do. -/
theorem read_archive (decoders : Archive.Decoders) {tree : FileTree} {path : Text} {place : Place}
    {content : Bytes} (filter : Filter) (hplace : tree.locate path = .ok place)
    (hnode : tree.node? place = some (.file content)) (hmark : Archive.mark <+: content)
    (harchive : Archive.ofBytes? decoders content = some archive) :
    ((∃ s, readWith decoders tree path filter = .ok s) ↔ ∀ e ∈ archive, e.content ≠ .sealed) ∧
      ((∃ e ∈ archive, e.content = .sealed) →
        readWith decoders tree path filter = .error .archive) ∧
      ∀ s, readWith decoders tree path filter = .ok s →
        s.records = (archive.filter (isSelected filter)).filterMap classOf? ∧
          s.filtered = archive.countP (isFilteredOut filter) ∧
          s.failed = (archive.filter (isSelected filter)).countP (fun e => (classOf? e).isNone) ∧
          s.records.length + s.filtered + s.failed =
            archive.countP fun e => isClassResource e.name := by
  rw [readWith_eq_ofArchive filter hplace hnode hmark harchive]
  -- entries are opened before anything is counted, so the archive fails or none of them matters
  by_cases hopening : ∀ e ∈ archive, e.content ≠ .sealed
  · obtain ⟨s, hs, htallies⟩ := ofArchive_of_opening filter hopening
    refine ⟨iff_of_true ⟨s, hs⟩ hopening, fun ⟨e, he, hsealed⟩ => absurd hsealed (hopening e he),
      fun s' hs' => ?_⟩
    obtain rfl : s = s' := Except.ok.inj (hs.symm.trans hs')
    exact ⟨htallies.records, htallies.filtered, htallies.failed, htallies.total⟩
  · have hsealed : ∃ e ∈ archive, e.content = .sealed := by simpa using hopening
    have herror : ofArchive filter archive = .error .archive := ofArchive_of_sealed hsealed
    rw [herror]
    exact ⟨iff_of_false (by simp) hopening, fun _ => rfl, by simp⟩

/-- The class file of a class without annotations. -/
def classBytes (internalName : String) : Bytes :=
  ClassFile.ClassDescription.bytes ⟨internalName.toList, some "java/lang/Object".toList, [], []⟩

/-- A working directory with one archive. -/
def oneArchive (entries : List StoredEntry) : FileTree :=
  ⟨[(Place.working.child "a.jar".toList, .file (Archive.bytesOf entries))]⟩

/-- The archive is found in the working directory. -/
theorem locate_oneArchive (entries : List StoredEntry) :
    (oneArchive entries).locate "a.jar".toList = .ok (Place.working.child "a.jar".toList) := rfl

/-- The archive is the file that was written. -/
theorem node?_oneArchive (entries : List StoredEntry) :
    (oneArchive entries).node? (Place.working.child "a.jar".toList) =
      some (.file (Archive.bytesOf entries)) := rfl

/-- A class as it is and one that is deflated, one with a wrong checksum, bits that no block begins
with, a class that is kept out, one that is none, and a text. -/
def mixedEntries : List StoredEntry := [
  { name := "k/Good.class".toList, bytes := classBytes "k/Good" },
  .deflated "k/Small.class".toList (classBytes "k/Small"),
  { StoredEntry.deflated "k/Bad.class".toList (classBytes "k/Bad") with checksum := 0 },
  { name := "k/Torn.class".toList, bytes := [0xFF], method := Archive.deflatingMethod },
  .deflated "k/Out.class".toList (classBytes "k/Out"),
  .deflated "k/None.class".toList [0],
  .deflated "notes.txt".toList [0x68]]

/-- The filter that keeps one class out. -/
def withoutOut : Filter := ⟨[⟨.excludes, fun name => name = "k.Out.class".toList⟩]⟩

/-- The entries as they are read. -/
def mixedArchive : Archive := [
  ⟨"k/Good.class".toList, .intact (classBytes "k/Good")⟩,
  ⟨"k/Small.class".toList, .intact (classBytes "k/Small")⟩, ⟨"k/Bad.class".toList, .damaged⟩,
  ⟨"k/Torn.class".toList, .damaged⟩, ⟨"k/Out.class".toList, .intact (classBytes "k/Out")⟩,
  ⟨"k/None.class".toList, .intact [0]⟩, ⟨"notes.txt".toList, .intact [0x68]⟩]

/-- Bad entries cost only themselves where all entries open. -/
theorem read_archive_mixed :
    Archive.mark <+: Archive.bytesOf mixedEntries ∧
      Archive.ofBytes? .standard (Archive.bytesOf mixedEntries) = some mixedArchive ∧
      (∀ e ∈ mixedArchive, e.content ≠ .sealed) ∧
      ∃ s, read (oneArchive mixedEntries) "a.jar".toList withoutOut = .ok s ∧
        s.records.map (·.declaration) = [⟨"k.Good".toList, ["java.lang.Object".toList]⟩,
          ⟨"k.Small".toList, ["java.lang.Object".toList]⟩] ∧
        s.filtered = 1 ∧ s.failed = 3 := by
  have hmark := Archive.mark_prefix_bytesOf mixedEntries
  have harchive : Archive.ofBytes? .standard (Archive.bytesOf mixedEntries) = some mixedArchive := by
    decide +kernel
  have hopening : ∀ e ∈ mixedArchive, e.content ≠ .sealed := by decide +kernel
  have hread := read_archive .standard withoutOut (locate_oneArchive _) (node?_oneArchive _) hmark
    harchive
  obtain ⟨s, hs⟩ := hread.1.mpr hopening
  obtain ⟨hrecords, hfiltered, hfailed, -⟩ := hread.2.2 s hs
  refine ⟨hmark, harchive, hopening, s, hs, ?_, ?_, ?_⟩
  · rw [hrecords]
    decide +kernel
  · rw [hfiltered]
    decide +kernel
  · rw [hfailed]
    decide +kernel

/-- A class next to an encrypted text. -/
def sealedEntries : List StoredEntry := [
  { name := "k/Good.class".toList, bytes := classBytes "k/Good" },
  { name := "notes.txt".toList, bytes := [0x68], encrypted := true }]

/-- The entries as they are read. -/
def sealedArchive : Archive := [
  ⟨"k/Good.class".toList, .intact (classBytes "k/Good")⟩, ⟨"notes.txt".toList, .sealed⟩]

/-- The class is lost for the text next to it, though the archive opens and the text is no class
resource. -/
theorem read_archive_sealed :
    Archive.ofBytes? .standard (Archive.bytesOf sealedEntries) = some sealedArchive ∧
      (sealedArchive.filter (isSelected .acceptAll)).map (·.name) = ["k/Good.class".toList] ∧
      ((sealedArchive.filter (isSelected .acceptAll)).filterMap classOf?).map (·.declaration) =
        [⟨"k.Good".toList, ["java.lang.Object".toList]⟩] ∧
      read (oneArchive sealedEntries) "a.jar".toList .acceptAll = .error .archive := by
  have hmark := Archive.mark_prefix_bytesOf sealedEntries
  have harchive : Archive.ofBytes? .standard (Archive.bytesOf sealedEntries) =
      some sealedArchive := by
    decide +kernel
  refine ⟨harchive, by decide +kernel, by decide +kernel, ?_⟩
  rw [read, readWith_eq_ofArchive .acceptAll (locate_oneArchive _) (node?_oneArchive _) hmark harchive]
  exact ofArchive_of_sealed ⟨_, List.mem_cons_of_mem _ List.mem_cons_self, rfl⟩

end ServletRoutes.Artifact
