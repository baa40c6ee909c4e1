import Mathlib.Data.List.Dedup
import Mathlib.Data.List.Infix
import Mathlib.Tactic.MkIffOfInductiveProp
import ServletRoutes.Proofs.FileTree.Walk

/-!
# `ServletRoutes.Proofs.FileTree.FileSet`: the files that a directory can hold

A `FileSet` is what can be put into an empty directory: files with relative
paths of proper names, none of which goes through another file. The directories
on the way to the files follow from the paths (`directories`), and with them
the files make a sound tree (`sound_tree`) whose working directory holds just
these files (`holds_tree`).
-/

set_option autoImplicit false

namespace ServletRoutes

/-- A name that a file can have on any system. -/
@[mk_iff]
structure IsName (name : Text) : Prop where
  nonempty : name ≠ []
  not_dot : name ≠ ['.']
  not_dots : name ≠ ['.', '.']
  no_slash : '/' ∉ name
  no_backslash : '\\' ∉ name

instance (name : Text) : Decidable (IsName name) := decidable_of_iff _ (isName_iff name).symm

/-- Files with relative paths; no path goes through the file of another one. -/
structure FileSet where
  files : List (List Text × Bytes)
  named : ∀ f ∈ files, f.1 ≠ [] ∧ ∀ name ∈ f.1, IsName name
  distinct : (files.map (·.1)).Nodup
  apart : ∀ f ∈ files, ∀ g ∈ files, f.1 <+: g.1 → f.1 = g.1

namespace FileSet

variable {s : FileSet} {names : List Text} {content : Bytes}

/-- The paths of the directories that hold the files. -/
def directories (s : FileSet) : List (List Text) :=
  (s.files.flatMap fun f => f.1.dropLast.inits.filter (· ≠ [])).dedup

/-- The directories of a file set are those on the way to one of its files. -/
theorem mem_directories_iff :
    names ∈ s.directories ↔ names ≠ [] ∧ ∃ f ∈ s.files, names <+: f.1.dropLast := by
  simp only [directories, List.mem_dedup, List.mem_flatMap, List.mem_filter, List.mem_inits,
    decide_eq_true_eq]
  constructor
  · rintro ⟨f, hf, hway, hne⟩
    exact ⟨hne, f, hf, hway⟩
  · rintro ⟨hne, f, hf, hway⟩
    exact ⟨f, hf, hway, hne⟩

/-- No file is a directory too. -/
theorem not_mem_directories {f : List Text × Bytes} (hf : f ∈ s.files) : f.1 ∉ s.directories := by
  intro hmem
  obtain ⟨hne, g, hg, hway⟩ := mem_directories_iff.mp hmem
  -- a path through the file would be that of the file itself, and longer
  have hfg : f.1 = g.1 := s.apart f hf g hg (hway.trans (List.dropLast_prefix _))
  have hlength := hway.length_le
  have hpositive : 0 < f.1.length := List.length_pos_of_ne_nil hne
  rw [← hfg, List.length_dropLast] at hlength
  omega

/-- What lies in a working directory that holds the files. -/
def tree (s : FileSet) : FileTree :=
  ⟨s.directories.map (fun names => (Place.working.descend names, .directory)) ++
    s.files.map fun f => (Place.working.descend f.1, .file f.2)⟩

/-- The nodes of the tree are the directories and the files. -/
theorem places_tree (s : FileSet) : s.tree.nodes.map (·.1) =
    (s.directories ++ s.files.map (·.1)).map Place.working.descend := by
  simp [tree, Function.comp_def]

/-- No two nodes of the tree have one place. -/
theorem distinct_tree (s : FileSet) : (s.tree.nodes.map (·.1)).Nodup := by
  rw [places_tree]
  refine List.Nodup.map (fun _ _ => Place.descend_inj.mp) ?_
  refine List.nodup_append.mpr ⟨List.nodup_dedup _, s.distinct, ?_⟩
  rintro names hdirectory path hpath rfl
  obtain ⟨f, hf, rfl⟩ := List.mem_map.mp hpath
  exact not_mem_directories hf hdirectory

/-- The path of a directory or a file. -/
theorem mem_places (s : FileSet) {n : Place × Node} (h : n ∈ s.tree.nodes) :
    ∃ names, n.1 = Place.working.descend names ∧ names ≠ [] ∧
      (names.dropLast = [] ∨ names.dropLast ∈ s.directories) := by
  have hplace : n.1 ∈ s.tree.nodes.map (·.1) := List.mem_map_of_mem h
  rw [places_tree] at hplace
  obtain ⟨names, hmem, hnames⟩ := List.mem_map.mp hplace
  refine ⟨names, hnames.symm, ?_⟩
  rcases List.mem_append.mp hmem with hdirectory | hfile
  · obtain ⟨hne, f, hf, hway⟩ := mem_directories_iff.mp hdirectory
    refine ⟨hne, or_iff_not_imp_left.mpr fun hparent => mem_directories_iff.mpr ⟨hparent, f, hf, ?_⟩⟩
    exact (List.dropLast_prefix names).trans hway
  · obtain ⟨f, hf, rfl⟩ := List.mem_map.mp hfile
    refine ⟨(s.named f hf).1, or_iff_not_imp_left.mpr fun hparent => ?_⟩
    exact mem_directories_iff.mpr ⟨hparent, f, hf, List.prefix_rfl⟩

/-- Every file and every directory of the tree lies in a directory. -/
theorem sound_tree (s : FileSet) : s.tree.Sound := by
  refine ⟨s.distinct_tree, fun n hn => ?_, fun n hn => ?_⟩
  · obtain ⟨names, hplace, hne, -⟩ := s.mem_places hn
    rw [hplace]
    exact hne
  · -- the parent is the working directory or a directory of the set
    obtain ⟨names, hplace, hne, hparent⟩ := s.mem_places hn
    rw [hplace, Place.parent_descend _ hne]
    rcases hparent with hempty | hdirectory
    · rw [hempty]
      rfl
    · refine (FileTree.node?_eq_some_iff s.distinct_tree ?_).mpr ?_
      · exact (mem_directories_iff.mp hdirectory).1
      · exact List.mem_append_left _ (List.mem_map_of_mem hdirectory)

/-- The working directory of the tree holds the files. -/
theorem holds_tree (s : FileSet) : s.tree.Holds .working s.files := by
  refine ⟨s.distinct, fun names content => ?_⟩
  rw [s.sound_tree.node?_eq_file_iff, tree, List.mem_append]
  constructor
  · intro hmem
    exact .inr (List.mem_map.mpr ⟨(names, content), hmem, rfl⟩)
  · rintro (hdirectory | hfile)
    · obtain ⟨_, -, heq⟩ := List.mem_map.mp hdirectory
      simp at heq
    · obtain ⟨⟨names', content'⟩, hmem, heq⟩ := List.mem_map.mp hfile
      obtain ⟨hplace, hnode⟩ := Prod.mk.inj heq
      obtain rfl := Place.descend_inj.mp hplace
      obtain rfl := Node.file.inj hnode
      exact hmem

end FileSet

end ServletRoutes
