import Mathlib.Data.List.Nodup
import Mathlib.Data.List.Perm.Basic
import ServletRoutes.FileTree.Walk
import ServletRoutes.Proofs.Text.NameSet
import ServletRoutes.Proofs.Text.Order

/-!
# `ServletRoutes.Proofs.FileTree.Walk`: a walk is a sorted list of files

`filesBelow` lists the files below a directory by sorting their paths.
`visit` is the walk itself: it takes the names in a directory in the order of
their bytes, lists a file where it meets one, and goes into a directory before
it takes the next name. In a tree where every node lies in a directory the two
agree (`walk_eq_filesBelow`). Both lists have the same members, and both are
ordered by the first name that differs, so they are one list.

That order compares paths name by name, each by its bytes
(`lt_iff_encode_lt`). It is not the order of the paths as texts, where `-` comes
before the slash that ends a name.
-/

set_option autoImplicit false

namespace ServletRoutes

/-- The place that names lead to from a directory. -/
def Place.descend (place : Place) (names : List Text) : Place :=
  ⟨place.origin, place.names ++ names⟩

namespace Place

variable {directory place : Place} {names names' : List Text}

/-- Different names lead to different places. -/
theorem descend_inj : directory.descend names = directory.descend names' ↔ names = names' := by
  simp [descend]

/-- The names from a directory to a place are those that lead to it. -/
theorem below?_eq_some_iff : directory.below? place = some names ↔ place = directory.descend names := by
  obtain ⟨origin, above⟩ := directory
  obtain ⟨origin', whole⟩ := place
  simp only [below?, descend, Place.mk.injEq, Bool.and_eq_true, decide_eq_true_eq,
    List.isPrefixOf_iff_prefix]
  constructor
  · intro h
    split at h
    next hbelow =>
      obtain ⟨rfl, rest, rfl⟩ := hbelow
      simpa using h
    next => simp at h
  · rintro ⟨rfl, rfl⟩
    simp

/-- The first name leads to a place from which the others lead on. -/
theorem descend_cons (directory : Place) (name : Text) (names : List Text) :
    directory.descend (name :: names) = (directory.child name).descend names := by
  simp [descend, child]

/-- A place with a name in a directory lies in that directory. -/
theorem parent_child (directory : Place) (name : Text) : (directory.child name).parent = directory := by
  obtain ⟨origin, names⟩ := directory
  simp only [child, parent]
  split <;> simp_all

/-- Without the last name the others lead to the directory of the place. -/
theorem parent_descend (directory : Place) {names : List Text} (h : names ≠ []) :
    (directory.descend names).parent = directory.descend names.dropLast := by
  have hlast : directory.descend names =
      (directory.descend names.dropLast).child (names.getLast h) := by
    rw [child, descend, descend, List.append_assoc, List.dropLast_append_getLast]
  rw [hlast, parent_child]

end Place

namespace FileTree

variable {tree : FileTree} {directory place : Place} {node : Node} {content : Bytes}
  {names : List Text} {files files' : List (List Text × Bytes)}

/-! ### The order of a walk -/

/-- The order of a walk is that of the bytes of the names, name by name. -/
theorem lt_iff_encode_lt {p q : List Text} :
    p < q ↔ p.map Text.Utf8.encode < q.map Text.Utf8.encode := by
  induction p generalizing q with
  | nil =>
    cases q with
    | nil => simp
    | cons b q => exact iff_of_true (List.nil_lt_cons _ _) (List.nil_lt_cons _ _)
  | cons a p ih =>
    cases q with
    | nil => exact iff_of_false (List.not_lt_nil _) (List.not_lt_nil _)
    | cons b q =>
      -- names are compared by their bytes, and equal bytes are equal names
      have hencode : Text.Utf8.encode a = Text.Utf8.encode b ↔ a = b := by
        constructor
        · intro h
          have hdecode : Text.Utf8.decode (Text.Utf8.encode a) = .ok b := by
            rw [h, Text.Utf8.decode_encode]
          rw [Text.Utf8.decode_encode] at hdecode
          exact Except.ok.inj hdecode
        · rintro rfl
          rfl
      rw [List.map_cons, List.map_cons, List.cons_lt_cons_iff, List.cons_lt_cons_iff, ih, hencode,
        Text.Utf8.encode_lt_encode_iff]

/-- The files stand in the order of a walk. -/
def InWalkOrder (files : List (List Text × Bytes)) : Prop :=
  files.Pairwise fun f g => f.1 < g.1

/-- The same files stand in the order of a walk in one way only. -/
theorem InWalkOrder.eq_of_perm (h : InWalkOrder files) (h' : InWalkOrder files')
    (hperm : files.Perm files') : files = files' :=
  -- two files cannot come before each other
  hperm.eq_of_pairwise (fun _ _ _ _ hfg hgf => absurd hgf (List.lt_asymm hfg)) h h'

/-- Files with different paths get into order. -/
theorem walkOrder_sorted (h : (files.map (·.1)).Nodup) : InWalkOrder (walkOrder files) := by
  have hperm : (walkOrder files).Perm files := List.mergeSort_perm _ _
  have hnodup : (walkOrder files).Pairwise fun f g => f.1 ≠ g.1 :=
    List.pairwise_map.mp ((hperm.map _).nodup_iff.mpr h)
  have hsorted : (walkOrder files).Pairwise fun f g => (!decide (g.1 < f.1)) = true := by
    refine List.pairwise_mergeSort (fun f g k hfg hgk => ?_) (fun f g => ?_) files
    · simp only [Bool.not_eq_true', decide_eq_false_iff_not, List.not_lt] at hfg hgk ⊢
      exact List.le_trans hfg hgk
    · simp only [Bool.or_eq_true, Bool.not_eq_true', decide_eq_false_iff_not, List.not_lt]
      exact List.le_total _ _
  -- different paths that do not stand the other way round are ordered
  refine hsorted.imp₂ (fun f g hle hne => ?_) hnodup
  have hle : ¬ g.1 < f.1 := by simpa using hle
  exact Decidable.by_contra fun hlt => hne (Std.Trichotomous.trichotomous _ _ hlt hle)

/-! ### Sound trees -/

/-- A tree as there are in file systems: each place stands once, no origin is among them, and every node
lies in a directory. -/
structure Sound (tree : FileTree) : Prop where
  distinct : (tree.nodes.map (·.1)).Nodup
  below : ∀ n ∈ tree.nodes, n.1.names ≠ []
  parented : ∀ n ∈ tree.nodes, tree.node? n.1.parent = some .directory

/-- Away from the origins the nodes say what lies where. -/
theorem node?_eq_some_iff (hdistinct : (tree.nodes.map (·.1)).Nodup) (hnames : place.names ≠ []) :
    tree.node? place = some node ↔ (place, node) ∈ tree.nodes := by
  rw [node?, if_neg hnames, Option.map_eq_some_iff]
  constructor
  · rintro ⟨n, hfind, rfl⟩
    have hplace : n.1 = place := by simpa using List.find?_some hfind
    subst hplace
    exact List.mem_of_find?_eq_some hfind
  · intro hmem
    cases hfind : tree.nodes.find? fun n => n.1 = place with
    | none => exact absurd (decide_eq_true rfl) (List.find?_eq_none.mp hfind _ hmem)
    | some n =>
      have hplace : n.1 = place := by simpa using List.find?_some hfind
      obtain rfl : n = (place, node) :=
        List.inj_on_of_nodup_map hdistinct (List.mem_of_find?_eq_some hfind) hmem hplace
      exact ⟨_, rfl, rfl⟩

/-- The files of a tree lie away from the origins. -/
theorem Sound.node?_eq_file_iff (h : tree.Sound) :
    tree.node? place = some (.file content) ↔ (place, .file content) ∈ tree.nodes := by
  by_cases hnames : place.names = []
  · refine iff_of_false (fun hnode => ?_) fun hmem => h.below _ hmem hnames
    simp [node?, hnames] at hnode
  · exact node?_eq_some_iff h.distinct hnames

/-- What has something in it is a directory. -/
theorem Sound.directory_of_child (h : tree.Sound) {name : Text}
    (hnode : tree.node? (place.child name) = some node) : tree.node? place = some .directory := by
  have hmem := (node?_eq_some_iff h.distinct (by simp [Place.child])).mp hnode
  have hparent := h.parented _ hmem
  rwa [Place.parent_child] at hparent

/-- What has something below it is a directory. -/
theorem Sound.directory_of_descend (h : tree.Sound) (hnames : names ≠ [])
    (hnode : tree.node? (place.descend names) = some node) :
    tree.node? place = some .directory := by
  induction names generalizing place with
  | nil => exact absurd rfl hnames
  | cons name names ih =>
    rw [Place.descend_cons] at hnode
    by_cases hrest : names = []
    · subst hrest
      have hchild : tree.node? (place.child name) = some node := by
        simpa [Place.descend] using hnode
      exact h.directory_of_child hchild
    · exact h.directory_of_child (ih hrest hnode)

/-! ### The files below a directory -/

/-- A directory holds exactly these files, by the names on the way to them. -/
structure Holds (tree : FileTree) (directory : Place) (files : List (List Text × Bytes)) : Prop where
  distinct : (files.map (·.1)).Nodup
  mem_iff : ∀ names content, (names, content) ∈ files ↔
    tree.node? (directory.descend names) = some (.file content)

/-- The files below a directory, in the order of the nodes. -/
def found (tree : FileTree) (directory : Place) : List (List Text × Bytes) :=
  tree.nodes.filterMap fun n =>
    match n.2 with
    | .directory => none
    | .file content => (directory.below? n.1).map fun names => (names, content)

/-- A file is found when it lies below the directory. -/
theorem mem_found_iff :
    (names, content) ∈ tree.found directory ↔ (directory.descend names, .file content) ∈ tree.nodes := by
  rw [found, List.mem_filterMap]
  constructor
  · rintro ⟨⟨place, node⟩, hmem, h⟩
    cases node with
    | directory => simp at h
    | file content' =>
      obtain ⟨names', hbelow, heq⟩ := Option.map_eq_some_iff.mp h
      obtain ⟨rfl, rfl⟩ := Prod.mk.inj heq
      obtain rfl := Place.below?_eq_some_iff.mp hbelow
      exact hmem
  · intro hmem
    refine ⟨_, hmem, ?_⟩
    show (directory.below? (directory.descend names)).map _ = _
    rw [Place.below?_eq_some_iff.mpr rfl]
    rfl

/-- A sound tree lists every file once. -/
theorem Sound.holds_found (h : tree.Sound) (directory : Place) :
    tree.Holds directory (tree.found directory) := by
  refine ⟨?_, fun names content => ?_⟩
  · rw [List.Nodup, List.pairwise_map, found]
    refine List.Pairwise.filterMap _ ?_ (List.pairwise_map.mp h.distinct)
    -- one path leads to one place, and each place stands once
    rintro ⟨place, node⟩ ⟨place', node'⟩ hne f hf f' hf' heq
    cases node with
    | directory => simp at hf
    | file content =>
      cases node' with
      | directory => simp at hf'
      | file content' =>
        obtain ⟨names, hbelow, rfl⟩ := Option.map_eq_some_iff.mp hf
        obtain ⟨names', hbelow', rfl⟩ := Option.map_eq_some_iff.mp hf'
        obtain rfl : names = names' := heq
        exact hne ((Place.below?_eq_some_iff.mp hbelow).trans
          (Place.below?_eq_some_iff.mp hbelow').symm)
  · rw [mem_found_iff, h.node?_eq_file_iff]

/-- A directory holds one set of files. -/
theorem Holds.perm (h : tree.Holds directory files) (h' : tree.Holds directory files') :
    files.Perm files' := by
  -- both lists have every file once, and a file is in them when it lies in the tree
  rw [List.perm_ext_iff_of_nodup h.distinct.of_map h'.distinct.of_map]
  rintro ⟨names, content⟩
  rw [h.mem_iff, h'.mem_iff]

/-- The files below a directory are those that it holds, in the order of a walk. -/
theorem Holds.filesBelow (h : tree.Holds directory files) (hsound : tree.Sound) :
    (tree.filesBelow directory).Perm files ∧ InWalkOrder (tree.filesBelow directory) := by
  have hfound := hsound.holds_found directory
  exact ⟨(List.mergeSort_perm _ _).trans (hfound.perm h), walkOrder_sorted hfound.distinct⟩

/-! ### The walk -/

/-- The names in a directory, in the order of their bytes. -/
def namesIn (tree : FileTree) (directory : Place) : NameSet :=
  .ofList (tree.nodes.filterMap fun n =>
    match directory.below? n.1 with
    | some [name] => some name
    | _ => none)

/-- The files that a walk meets from a name in a directory on, before the next name. -/
def meet (tree : FileTree) (visit : Place → List (List Text × Bytes)) (directory : Place)
    (name : Text) : List (List Text × Bytes) :=
  match tree.node? (directory.child name) with
  | some (.file content) => [([name], content)]
  | some .directory => (visit (directory.child name)).map fun f => (name :: f.1, f.2)
  | none => []

/-- The files that a walk meets below a directory, so many levels deep. -/
def visit (tree : FileTree) : Nat → Place → List (List Text × Bytes)
  | 0, _ => []
  | depth + 1, directory =>
    (tree.namesIn directory).toList.flatMap (tree.meet (tree.visit depth) directory)

/-- Everything lies at most so many levels deep. -/
def depth (tree : FileTree) : Nat := tree.nodes.foldr (fun n depth => max n.1.names.length depth) 0

/-- The files that a walk meets below a directory. -/
def walk (tree : FileTree) (directory : Place) : List (List Text × Bytes) :=
  tree.visit tree.depth directory

/-- Nothing lies deeper than the depth. -/
theorem le_depth {n : Place × Node} (h : n ∈ tree.nodes) : n.1.names.length ≤ tree.depth := by
  obtain ⟨nodes⟩ := tree
  show _ ≤ nodes.foldr (fun n depth => max n.1.names.length depth) 0
  induction nodes with
  | nil => simp at h
  | cons m nodes ih =>
    rw [List.foldr_cons]
    rcases List.mem_cons.mp h with rfl | h
    · exact Nat.le_max_left _ _
    · exact (ih h).trans (Nat.le_max_right _ _)

/-- The names in a directory are those of the nodes that lie in it. -/
theorem mem_namesIn_iff (h : tree.Sound) {name : Text} :
    name ∈ tree.namesIn directory ↔ (tree.node? (directory.child name)).isSome := by
  have hnames : (directory.child name).names ≠ [] := by simp [Place.child]
  rw [namesIn, NameSet.mem_ofList, List.mem_filterMap, Option.isSome_iff_exists]
  constructor
  · rintro ⟨⟨place, node⟩, hmem, hname⟩
    refine ⟨node, (node?_eq_some_iff h.distinct hnames).mpr ?_⟩
    split at hname
    next name' hbelow =>
      obtain rfl : name' = name := by simpa using hname
      obtain rfl : place = directory.child name' := Place.below?_eq_some_iff.mp hbelow
      exact hmem
    next => simp at hname
  · rintro ⟨node, hnode⟩
    refine ⟨_, (node?_eq_some_iff h.distinct hnames).mp hnode, ?_⟩
    have hbelow : directory.below? (directory.child name) = some [name] :=
      Place.below?_eq_some_iff.mpr rfl
    simp only [hbelow]

/-- What a walk meets from a name on begins with that name. -/
theorem head_of_mem_meet {visit : Place → List (List Text × Bytes)} {name : Text}
    {f : List Text × Bytes} (h : f ∈ tree.meet visit directory name) :
    ∃ rest, f.1 = name :: rest := by
  unfold meet at h
  split at h
  · obtain rfl := List.mem_singleton.mp h
    exact ⟨[], rfl⟩
  · obtain ⟨g, -, rfl⟩ := List.mem_map.mp h
    exact ⟨g.1, rfl⟩
  · simp at h

/-- What a walk meets from a name on is in order. -/
theorem meet_sorted {visit : Place → List (List Text × Bytes)}
    (h : ∀ place, InWalkOrder (visit place)) (directory : Place) (name : Text) :
    InWalkOrder (tree.meet visit directory name) := by
  unfold meet
  split
  · exact List.pairwise_singleton _ _
  · refine (h (directory.child name)).map _ fun f g hfg => ?_
    exact List.cons_lt_cons_self.mpr hfg
  · exact .nil

/-- A walk meets the files in order. The induction is on the levels below the directory. -/
theorem visit_sorted (tree : FileTree) (depth : Nat) (directory : Place) :
    InWalkOrder (tree.visit depth directory) := by
  induction depth generalizing directory with
  | zero => exact .nil
  | succ depth ih =>
    rw [visit, InWalkOrder, List.pairwise_flatMap]
    refine ⟨fun name _ => meet_sorted ih directory name, ?_⟩
    -- files below different names are in the order of these names
    refine (tree.namesIn directory).ascending.imp fun {name name'} hbefore f hf g hg => ?_
    obtain ⟨rest, hf⟩ := head_of_mem_meet hf
    obtain ⟨rest', hg⟩ := head_of_mem_meet hg
    rw [hf, hg]
    exact List.cons_lt_cons_iff.mpr (.inl hbefore)

/-- From a name on a walk meets the file with that name, or the files below the directory with that
name. -/
theorem mem_meet_iff {visit : Place → List (List Text × Bytes)} {name : Text} {rest : List Text} :
    (name :: rest, content) ∈ tree.meet visit directory name ↔
      (rest = [] ∧ tree.node? (directory.child name) = some (.file content)) ∨
        (tree.node? (directory.child name) = some .directory ∧
          (rest, content) ∈ visit (directory.child name)) := by
  unfold meet
  split
  next hnode => simp [hnode, eq_comm]
  next hnode => simp [hnode]
  next hnode => simp [hnode]

/-- A walk meets exactly the files below the directory, as deep as it goes. -/
theorem mem_visit_iff (h : tree.Sound) {depth : Nat} {directory : Place} {names : List Text} :
    (names, content) ∈ tree.visit depth directory ↔
      names ≠ [] ∧ names.length ≤ depth ∧
        tree.node? (directory.descend names) = some (.file content) := by
  induction depth generalizing directory names with
  | zero =>
    refine iff_of_false List.not_mem_nil ?_
    rintro ⟨hne, hlength, -⟩
    exact hne (List.length_eq_zero_iff.mp (by omega))
  | succ depth ih =>
    rw [visit, List.mem_flatMap]
    constructor
    -- the first name is that of the file itself or of a directory on the way
    · rintro ⟨name, -, hmem⟩
      obtain ⟨rest, rfl⟩ : ∃ rest, names = name :: rest := head_of_mem_meet hmem
      rw [Place.descend_cons, List.length_cons]
      rcases mem_meet_iff.mp hmem with ⟨rfl, hfile⟩ | ⟨-, hrest⟩
      · refine ⟨by simp, by simp, ?_⟩
        simpa [Place.descend] using hfile
      · obtain ⟨-, hlength, hfile⟩ := ih.mp hrest
        exact ⟨by simp, by omega, hfile⟩
    · rintro ⟨hne, hlength, hfile⟩
      obtain ⟨name, rest, rfl⟩ := List.exists_cons_of_ne_nil hne
      rw [Place.descend_cons] at hfile
      rw [List.length_cons] at hlength
      by_cases hrest : rest = []
      · subst hrest
        have hnode : tree.node? (directory.child name) = some (.file content) := by
          simpa [Place.descend] using hfile
        exact ⟨name, (mem_namesIn_iff h).mpr (by rw [hnode]; rfl), mem_meet_iff.mpr (.inl ⟨rfl, hnode⟩)⟩
      · -- what the name leads to is a directory, since the file lies below it
        have hnode : tree.node? (directory.child name) = some .directory :=
          h.directory_of_descend hrest hfile
        refine ⟨name, (mem_namesIn_iff h).mpr (by rw [hnode]; rfl), mem_meet_iff.mpr (.inr ⟨hnode, ?_⟩)⟩
        exact ih.mpr ⟨hrest, by omega, hfile⟩

/-- A walk meets the files that the directory holds. -/
theorem holds_walk (h : tree.Sound) (hdirectory : tree.node? directory = some .directory) :
    tree.Holds directory (tree.walk directory) := by
  refine ⟨?_, fun names content => ?_⟩
  · rw [List.Nodup, List.pairwise_map]
    refine (tree.visit_sorted tree.depth directory).imp fun {f g} hfg heq => ?_
    rw [heq] at hfg
    exact List.lt_irrefl _ hfg
  · rw [walk, mem_visit_iff h]
    constructor
    · intro hfile
      exact hfile.2.2
    · -- no file lies deeper than the walk goes, and none at the directory itself
      intro hfile
      have hlength := le_depth ((h.node?_eq_file_iff).mp hfile)
      simp only [Place.descend, List.length_append] at hlength
      refine ⟨?_, by omega, hfile⟩
      rintro rfl
      simp [Place.descend, hdirectory] at hfile

/-- The sorted list of the files below a directory is what a walk meets. -/
theorem walk_eq_filesBelow (h : tree.Sound) (hdirectory : tree.node? directory = some .directory) :
    tree.walk directory = tree.filesBelow directory := by
  obtain ⟨hperm, hsorted⟩ := (holds_walk h hdirectory).filesBelow h
  exact (tree.visit_sorted tree.depth directory).eq_of_perm hsorted hperm.symm

end FileTree

end ServletRoutes
