import ServletRoutes.Proofs.Archive.Storing
import ServletRoutes.Proofs.Artifact.Archive
import ServletRoutes.Proofs.FileTree.FileSet
import ServletRoutes.Proofs.FileTree.Writing
import ServletRoutes.Proofs.Text.Decoding

/-!
# `ServletRoutes.Proofs.Artifact.Directory`: a directory and an archive of the same files

A class directory is read by a walk, which makes the name of each resource from
the names on the way to it; an archive is read entry by entry under the names
that the entries have. `read_files` says that both come to the same when they
hold the same files. Each file that the walk meets is tallied like the entry that
holds it (`DirectoryAt.tallies`), so the two differ at most in the order of the
records. The walk goes by the bytes of the names, name by name, and in an archive
with its entries in this order the records come in the same order too.
-/

set_option autoImplicit false

namespace ServletRoutes.Artifact

open FileTree (InWalkOrder)

variable {filter : Filter} {tree : FileTree} {directory : Place} {path : Text}
  {files listed : List (List Text × Bytes)} {archive archive' : Archive} {scan scan' : ArtifactScan}
  {decoders : Archive.Decoders}

/-! ### Tallies of the same entries -/

/-- The tallies leave nothing open. -/
theorem Tallies.unique (h : Tallies filter archive scan) (h' : Tallies filter archive scan') :
    scan = scan' := by
  obtain ⟨records, filtered, failed⟩ := scan
  obtain ⟨records', filtered', failed'⟩ := scan'
  obtain rfl : records = records' := h.records.trans h'.records.symm
  obtain rfl : filtered = filtered' := h.filtered.trans h'.filtered.symm
  obtain rfl : failed = failed' := h.failed.trans h'.failed.symm
  rfl

/-- The same entries in another order give the same counters, and the records in another order. -/
theorem Tallies.perm (h : Tallies filter archive scan) (h' : Tallies filter archive' scan')
    (hperm : archive.Perm archive') :
    scan.records.Perm scan'.records ∧ scan.filtered = scan'.filtered ∧
      scan.failed = scan'.failed := by
  have hselected : (archive.filter (isSelected filter)).Perm (archive'.filter (isSelected filter)) :=
    hperm.filter _
  refine ⟨?_, ?_, ?_⟩
  · rw [h.records, h'.records]
    exact hselected.filterMap _
  · rw [h.filtered, h'.filtered]
    exact hperm.countP_eq _
  · rw [h.failed, h'.failed]
    exact hselected.countP_eq _

/-! ### The entries that hold files -/

/-- The entry that holds a file. -/
def entryOf (f : List Text × Bytes) : ArchiveEntry := ⟨Text.join ['/'] f.1, .intact f.2⟩

/-- A file as it is stored in an archive. -/
def storedFile (f : List Text × Bytes) : StoredEntry :=
  { name := Text.join ['/'] f.1, bytes := f.2 }

/-- A stored file is opened as the entry that holds it. -/
theorem opened_storedFile (decoders : Archive.Decoders) (f : List Text × Bytes) :
    (storedFile f).opened decoders = entryOf f :=
  StoredEntry.opened_stored decoders (Text.join ['/'] f.1) f.2

/-- Different files of a set are held by entries with different names. -/
theorem nodup_entryNames (s : FileSet) : ((s.files.map entryOf).map (·.name)).Nodup := by
  have hnames : (s.files.map entryOf).map (·.name) = (s.files.map (·.1)).map (Text.join ['/']) := by
    simp [entryOf]
  rw [hnames, List.nodup_map_iff_inj_on s.distinct]
  intro p hp q hq heq
  obtain ⟨f, hf, rfl⟩ := List.mem_map.mp hp
  obtain ⟨g, hg, rfl⟩ := List.mem_map.mp hq
  -- no name holds a slash, so the path can be told from the name of the entry
  have hsplit (f : List Text × Bytes) (hf : f ∈ s.files) :
      Text.splitOn '/' (Text.join ['/'] f.1) = f.1 :=
    Text.splitOn_join (s.named f hf).1 fun name hname => ((s.named f hf).2 name hname).no_slash
  rw [← hsplit f hf, ← hsplit g hg, heq]

/-! ### Directories -/

/-- Where no name holds a backslash, a resource is named like the entry that holds it. -/
theorem resourceName_eq {names : List Text} (h : ∀ name ∈ names, '\\' ∉ name) :
    resourceName names = Text.join ['/'] names := by
  rw [resourceName]
  exact Text.replace_of_notMem (Text.notMem_join (by decide) h)

/-- A file of a directory is looked at like the entry that holds it. -/
theorem filterMap_outcome?_files (h : ∀ f ∈ files, ∀ name ∈ f.1, '\\' ∉ name) (filter : Filter) :
    files.filterMap (fun f => outcome? filter (resourceName f.1) (some f.2)) =
      (files.map entryOf).filterMap fun e => outcome? filter e.name (entryBytes? e.content) := by
  rw [List.filterMap_map]
  refine List.filterMap_congr fun f hf => ?_
  rw [resourceName_eq (h f hf)]
  rfl

/-- What a walk below a directory makes of the files that it meets. -/
def walkOutcomes (filter : Filter) (tree : FileTree) (directory : Place) : List Outcome :=
  (tree.walk directory).filterMap fun f => outcome? filter (resourceName f.1) (some f.2)

/-- A path leads to a directory that holds exactly these files. -/
structure DirectoryAt (tree : FileTree) (path : Text) (directory : Place)
    (files : List (List Text × Bytes)) : Prop where
  sound : tree.Sound
  place : tree.locate path = .ok directory
  node : tree.node? directory = some .directory
  holds : tree.Holds directory files

namespace DirectoryAt

/-- The walk meets the files. -/
theorem perm_walk (h : DirectoryAt tree path directory files) : (tree.walk directory).Perm files :=
  (FileTree.holds_walk h.sound h.node).perm h.holds

/-- The directory is read by the walk. -/
theorem read_eq (h : DirectoryAt tree path directory files) (filter : Filter)
    (decoders : Archive.Decoders) :
    readWith decoders tree path filter = .ok (ofOutcomes (walkOutcomes filter tree directory)) := by
  rw [readWith, h.place]
  simp only [h.node]
  rw [walkOutcomes, FileTree.walk_eq_filesBelow h.sound h.node]
  rfl

/-- What the walk meets is tallied like the entries that would hold it. -/
theorem tallies (h : DirectoryAt tree path directory files)
    (hplain : ∀ f ∈ files, ∀ name ∈ f.1, '\\' ∉ name) (filter : Filter) :
    Tallies filter ((tree.walk directory).map entryOf)
      (ofOutcomes (walkOutcomes filter tree directory)) := by
  have hwalked : ∀ f ∈ tree.walk directory, ∀ name ∈ f.1, '\\' ∉ name := by
    intro f hf
    exact hplain f (h.perm_walk.mem_iff.mp hf)
  rw [walkOutcomes, filterMap_outcome?_files hwalked]
  exact tallies_archive filter _

end DirectoryAt

/-! ### Archives -/

/-- A path leads to a readable archive with exactly these files, in this order. -/
structure ArchiveAt (decoders : Archive.Decoders) (tree : FileTree) (path : Text)
    (listed : List (List Text × Bytes)) : Prop where
  readable : ∃ content, tree.contentAt path = .ok content ∧ Archive.mark <+: content ∧
    Archive.ofBytes? decoders content = some (listed.map entryOf)

/-- All entries of a readable archive open, and it is tallied entry by entry. -/
theorem read_archiveAt (h : ArchiveAt decoders tree path listed) (filter : Filter) :
    ∃ scan, readWith decoders tree path filter = .ok scan ∧
      Tallies filter (listed.map entryOf) scan := by
  obtain ⟨content, hcontent, hmark, harchive⟩ := h.readable
  obtain ⟨place, hplace, hnode⟩ := FileTree.contentAt_eq_ok_iff.mp hcontent
  have hopening : ∀ e ∈ listed.map entryOf, e.content ≠ .sealed := by
    intro e he
    obtain ⟨f, -, rfl⟩ := List.mem_map.mp he
    exact EntryContent.noConfusion
  rw [readWith_eq_ofArchive filter hplace hnode hmark harchive]
  exact ofArchive_of_opening filter hopening

/-! ### The same files in both -/

/-- The files of a set can be put into a directory. -/
theorem directoryAt_tree (s : FileSet) : DirectoryAt s.tree ['.'] .working s.files :=
  ⟨s.sound_tree, rfl, rfl, s.holds_tree⟩

/-- The files of a set can be stored in an archive, in any order. -/
theorem archiveAt_oneArchive (decoders : Archive.Decoders) {s : FileSet} (hlisted : listed.Perm s.files)
    (hstorable : Archive.Storable (listed.map storedFile)) :
    ArchiveAt decoders (oneArchive (listed.map storedFile)) "a.jar".toList listed := by
  have hopened : (listed.map storedFile).map (StoredEntry.opened decoders) = listed.map entryOf := by
    rw [List.map_map]
    exact List.map_congr_left fun f _ => opened_storedFile decoders f
  have hnames : ((listed.map entryOf).map (·.name)).Nodup :=
    (((hlisted.map entryOf).map _).nodup_iff).mpr (nodup_entryNames s)
  refine ⟨_, FileTree.contentAt_eq_ok_iff.mpr ⟨_, locate_oneArchive _, node?_oneArchive _⟩,
    Archive.mark_prefix_bytesOf _, ?_⟩
  rw [Archive.ofBytes?_bytesOf decoders hstorable, hopened, Archive.ofEntries_of_nodup hnames]

/-- Files can be put into a directory, and into an archive in any order. Wherever there is a directory of
the files and a readable archive of them, both are read, the directory by a walk. They give the same
counters and the same records up to their order, and with the archive in the order of the bytes of the
names, name by name, they give the same scan. Every class resource is read or counted. -/
theorem read_files (s : FileSet) (filter : Filter) (decoders : Archive.Decoders) :
    DirectoryAt s.tree ['.'] .working s.files ∧
    (∀ listed : List (List Text × Bytes), listed.Perm s.files →
      Archive.Storable (listed.map storedFile) →
      ArchiveAt decoders (oneArchive (listed.map storedFile)) "a.jar".toList listed) ∧
    ∀ tree path directory archives archivePath listed,
      DirectoryAt tree path directory s.files → ArchiveAt decoders archives archivePath listed →
      listed.Perm s.files →
      ∃ scan scan', readWith decoders tree path filter = .ok scan ∧
        readWith decoders archives archivePath filter = .ok scan' ∧
        scan = ofOutcomes (walkOutcomes filter tree directory) ∧
        scan.records.Perm scan'.records ∧ scan.filtered = scan'.filtered ∧
        scan.failed = scan'.failed ∧
        (listed.Pairwise (fun f g => f.1.map Text.Utf8.encode < g.1.map Text.Utf8.encode) →
          scan = scan') ∧
        scan.records.length + scan.filtered + scan.failed =
          s.files.countP (fun f => isClassResource (Text.join ['/'] f.1)) ∧
        scan'.records.length + scan'.filtered + scan'.failed =
          s.files.countP (fun f => isClassResource (Text.join ['/'] f.1)) := by
  refine ⟨directoryAt_tree s, fun listed hlisted hstorable =>
    archiveAt_oneArchive decoders hlisted hstorable, ?_⟩
  intro tree path directory archives archivePath listed hdirectory harchive hlisted
  have hplain : ∀ f ∈ s.files, ∀ name ∈ f.1, '\\' ∉ name := by
    intro f hf name hname
    exact ((s.named f hf).2 name hname).no_backslash
  -- both sides tally the same entries, in the order of the walk and in that of the archive
  have htallies := hdirectory.tallies hplain filter
  obtain ⟨scan', hscan', htallies'⟩ := read_archiveAt harchive filter
  have hsame : (tree.walk directory).Perm listed := hdirectory.perm_walk.trans hlisted.symm
  obtain ⟨hrecords, hfiltered, hfailed⟩ := htallies.perm htallies' (hsame.map entryOf)
  refine ⟨_, scan', hdirectory.read_eq filter decoders, hscan', rfl, hrecords, hfiltered, hfailed, ?_, ?_, ?_⟩
  · -- there is one order of the walk, and the entries stand in it
    intro hbytes
    have hsorted : InWalkOrder (tree.walk directory) := tree.visit_sorted tree.depth directory
    have horder : InWalkOrder listed := hbytes.imp fun h => FileTree.lt_iff_encode_lt.mpr h
    have hlist : tree.walk directory = listed := hsorted.eq_of_perm horder hsame
    rw [hlist] at htallies
    exact htallies.unique htallies'
  · rw [htallies.total, List.countP_map, hdirectory.perm_walk.countP_eq]
    rfl
  · rw [htallies'.total, List.countP_map, hlisted.countP_eq]
    rfl

/-- Two directories, one of which has the name of the other with a hyphen behind it, a file that is no
class, a text and a class to keep out. -/
def hyphenFiles : FileSet where
  files := [(["a".toList, "None.class".toList], [0]),
    (["a".toList, "X.class".toList], classBytes "a/X"), (["a".toList, "notes.txt".toList], [0x68]),
    (["a-b".toList, "X.class".toList], classBytes "a-b/X"),
    (["k".toList, "Out.class".toList], classBytes "k/Out")]
  named := by decide +kernel
  distinct := by decide +kernel
  apart := by decide +kernel

/-- The walk goes through the whole directory without the hyphen first, though the paths of the other one
come first as texts. -/
theorem read_files_hyphen :
    "a-b/X.class".toList < "a/X.class".toList ∧
      ∃ scan, read hyphenFiles.tree ['.'] withoutOut = .ok scan ∧
        read (oneArchive (hyphenFiles.files.map storedFile)) "a.jar".toList withoutOut = .ok scan ∧
        scan.records.map (·.declaration.name) = ["a.X".toList, "a-b.X".toList] ∧
        scan.filtered = 1 ∧ scan.failed = 1 := by
  obtain ⟨hdirectory, hstored, hread⟩ := read_files hyphenFiles withoutOut .standard
  have harchive := hstored hyphenFiles.files .rfl (by decide +kernel)
  obtain ⟨scan, scan', hscan, hscan', hwalk, -, -, -, hsame, -, -⟩ :=
    hread _ _ _ _ _ _ hdirectory harchive .rfl
  obtain rfl : scan = scan' := hsame (by decide +kernel)
  refine ⟨by decide +kernel, scan, hscan, hscan', ?_, ?_, ?_⟩
  · rw [hwalk]
    decide +kernel
  · rw [hwalk]
    decide +kernel
  · rw [hwalk]
    decide +kernel

end ServletRoutes.Artifact
