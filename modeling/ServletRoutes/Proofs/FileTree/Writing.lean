import ServletRoutes.FileTree.Basic

/-!
# `ServletRoutes.Proofs.FileTree.Writing`: what a write leaves alone

Paths are followed over directories, so the content of a file decides
nothing about where a path leads. Writing to a file that exists therefore

* keeps every path where it was (`samePlaces_writeText`);
* gives that file its text (`textAt_writeText_self`);
* leaves what lies at every other place (`node?_writeText_of_ne`), and so
  what every path to another place leads to (`contentAt_writeText_of_ne`).
-/

set_option autoImplicit false

namespace ServletRoutes

/-- The node is a file. -/
def Node.isFile : Node → Bool
  | .directory => false
  | .file _ => true

namespace FileTree

variable {tree tree' tree'' : FileTree} {place other : Place} {node : Node} {path : Text}
  {content : Bytes} {old : Text}

/-! ### Nodes -/

/-- A node that was put lies at its place. -/
theorem node?_put_self (tree : FileTree) (node : Node) (h : place.names ≠ []) :
    (tree.put place node).node? place = some node := by
  obtain ⟨nodes⟩ := tree
  simp only [node?, put, h, if_false]
  split
  next hany =>
    -- the node takes the position of the one that lay there
    induction nodes with
    | nil => simp at hany
    | cons n nodes ih =>
      rw [List.map_cons, List.find?_cons]
      by_cases hn : n.1 = place
      · simp [hn]
      · simp only [List.any_cons, hn, decide_false, Bool.false_or] at hany
        simpa [hn] using ih hany
  next hnone =>
    simp only [List.any_eq_true, decide_eq_true_eq, not_exists, not_and] at hnone
    rw [List.find?_append, List.find?_eq_none.mpr (by simpa using hnone)]
    simp

/-- A node that was put changes nothing at other places. -/
theorem node?_put_of_ne (tree : FileTree) (node : Node) (h : other ≠ place) :
    (tree.put place node).node? other = tree.node? other := by
  obtain ⟨nodes⟩ := tree
  simp only [node?, put]
  split
  next => rfl
  next hnames =>
    split
    next hany =>
      -- the node at the place is exchanged, and the search for the other one goes past it
      clear hany
      induction nodes with
      | nil => rfl
      | cons n nodes ih =>
        rw [List.map_cons, List.find?_cons, List.find?_cons]
        by_cases hn : n.1 = place
        · simpa [hn, Ne.symm h] using ih
        · by_cases ho : n.1 = other
          · simp [ho, h]
          · simpa [hn, ho] using ih
    next hnone =>
      rw [List.find?_append]
      simp [Ne.symm h]

/-! ### Places -/

/-- Two trees have directories at the same places and files at the same places. -/
def SamePlaces (tree tree' : FileTree) : Prop :=
  ∀ place, (tree.node? place).map Node.isFile = (tree'.node? place).map Node.isFile

namespace SamePlaces

/-- A tree has the places that it has. -/
theorem refl (tree : FileTree) : SamePlaces tree tree := fun _ => rfl

/-- Having the same places is passed on. -/
theorem trans (h : SamePlaces tree tree') (h' : SamePlaces tree' tree'') :
    SamePlaces tree tree'' :=
  fun place => (h place).trans (h' place)

/-- One part of a path leads to the same place. -/
theorem step_eq (h : SamePlaces tree tree') (place : Place) (part : Text) :
    tree.step place part = tree'.step place part := by
  have hplace := h place
  unfold step
  cases hnode : tree.node? place with
  | none =>
    rw [hnode, Option.map_none, eq_comm, Option.map_eq_none_iff] at hplace
    rw [hplace]
  | some node =>
    rw [hnode, Option.map_some, eq_comm, Option.map_eq_some_iff] at hplace
    obtain ⟨node', hnode', hfile⟩ := hplace
    rw [hnode']
    cases node <;> cases node' <;> first | rfl | simp [Node.isFile] at hfile

/-- The parts of a path lead to the same place. -/
theorem follow_eq (h : SamePlaces tree tree') (place : Place) (parts : List Text) :
    tree.follow place parts = tree'.follow place parts := by
  induction parts generalizing place with
  | nil => rfl
  | cons part parts ih =>
    rw [follow, follow, h.step_eq place part]
    cases tree'.step place part with
    | error fault => rfl
    | ok next => exact ih next

/-- Every path leads to the same place. -/
theorem locate_eq (h : SamePlaces tree tree') (path : Text) :
    tree.locate path = tree'.locate path := by
  rw [locate, locate, h.follow_eq]

/-- A path whose place is left alone leads to the same content. -/
theorem contentAt_eq (h : SamePlaces tree tree')
    (hplace : ∀ place, tree.locate path = .ok place → tree'.node? place = tree.node? place) :
    tree'.contentAt path = tree.contentAt path := by
  rw [contentAt, contentAt, lookup, lookup, ← h.locate_eq path]
  cases hlocate : tree.locate path with
  | error fault => rfl
  | ok place => simp only [hplace place hlocate]

end SamePlaces

/-! ### Files -/

/-- A path leads to a content when it leads to the place of a file with that content. -/
theorem contentAt_eq_ok_iff :
    tree.contentAt path = .ok content ↔
      ∃ place, tree.locate path = .ok place ∧ tree.node? place = some (.file content) := by
  unfold contentAt lookup
  cases hplace : tree.locate path with
  | error fault => simp
  | ok place =>
    cases hnode : tree.node? place with
    | none => simp [hnode]
    | some node => cases node <;> simp [hnode]

/-- The place of a file is no origin. -/
theorem names_ne_nil_of_file (h : tree.node? place = some (.file content)) : place.names ≠ [] := by
  intro hnames
  simp [node?, hnames] at h

/-- A path leads to a text when it leads to the place of a file with that text. -/
theorem locate_of_textAt (h : tree.textAt path = .ok old) :
    ∃ place content, tree.locate path = .ok place ∧ tree.node? place = some (.file content) ∧
      textOf content = .ok old := by
  unfold textAt at h
  split at h
  · simp at h
  next content hcontent =>
    obtain ⟨place, hplace, hnode⟩ := contentAt_eq_ok_iff.mp hcontent
    exact ⟨place, content, hplace, hnode, h⟩

/-- A written text can be read back. -/
theorem textOf_encode (t : Text) : textOf (Text.Utf8.encode t) = .ok t := by
  rw [textOf, Text.Utf8.decode_encode]

/-- Writing to a file changes no place. -/
theorem samePlaces_writeText (h : tree.textAt path = .ok old) (new : Text) :
    SamePlaces tree (tree.writeText path new) := by
  obtain ⟨place, content, hplace, hnode, -⟩ := locate_of_textAt h
  intro other
  rw [writeText, putFile, hplace]
  by_cases hother : other = place
  · rw [hother, node?_put_self tree _ (names_ne_nil_of_file hnode), hnode]
    rfl
  · rw [node?_put_of_ne tree _ hother]

/-- A file has the text that was written to it. -/
theorem textAt_writeText_self (h : tree.textAt path = .ok old) (new : Text) :
    (tree.writeText path new).textAt path = .ok new := by
  have hsame := samePlaces_writeText h new
  obtain ⟨place, content, hplace, hnode, -⟩ := locate_of_textAt h
  have hcontent : (tree.writeText path new).contentAt path = .ok (Text.Utf8.encode new) := by
    refine contentAt_eq_ok_iff.mpr ⟨place, (hsame.locate_eq path).symm.trans hplace, ?_⟩
    rw [writeText, putFile, hplace]
    exact node?_put_self tree _ (names_ne_nil_of_file hnode)
  rw [textAt, hcontent]
  exact textOf_encode new

/-- Paths to one place lead to one text. -/
theorem textAt_congr {path' : Text} (h : tree.locate path' = tree.locate path) :
    tree.textAt path' = tree.textAt path := by
  simp only [textAt, contentAt, lookup, h]

/-- Writing to a path changes nothing at other places. -/
theorem node?_writeText_of_ne (h : tree.locate path ≠ .ok place) (new : Text) :
    (tree.writeText path new).node? place = tree.node? place := by
  rw [writeText, putFile]
  cases hplace : tree.locate path with
  | error fault => rfl
  | ok own =>
    refine node?_put_of_ne tree _ ?_
    rintro rfl
    exact h hplace

/-- Writing to a file changes nothing for a path to another place. -/
theorem contentAt_writeText_of_ne (h : tree.textAt path = .ok old) (new : Text) {path' : Text}
    (hne : tree.locate path' ≠ tree.locate path) :
    (tree.writeText path new).contentAt path' = tree.contentAt path' := by
  refine (samePlaces_writeText h new).contentAt_eq fun place hplace => ?_
  exact node?_writeText_of_ne (fun hown => hne (hplace.trans hown.symm)) new

end FileTree

end ServletRoutes
