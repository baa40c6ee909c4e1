import Mathlib.Data.List.Forall2
import Mathlib.Data.List.Nodup
import ServletRoutes.Generate.Run
import ServletRoutes.Proofs.Document.Revision
import ServletRoutes.Proofs.FileTree.Writing
import ServletRoutes.Proofs.Outcome

/-!
# `ServletRoutes.Proofs.Generate.Run`: what a successful run has done

A run goes through its targets three times: to resolve, to draft and to
write. The theorems say what each pass has done when it succeeds.

* `resolve_eq_ok_iff` and `drafts_eq_ok_iff`: one report and one draft for
  every target, in order.
* `Draft.From`: a draft is the revision of the text that the tree has.
* `write_any`: in the end a file holds the text of the last draft that changes
  it, and every other file is as it was.
* `write_spec`: when the documents are different files, each holds its
  updated text.
* `run_eq_ok_iff`: a run is these passes one after the other.
* `run_succeeds_iff`: it fails only at a scan or at a target that is not ready.
-/

set_option autoImplicit false

namespace ServletRoutes.Generate

open Route (Resolution)

variable {config : Config} {reader : ArtifactReader} {artifacts : List Text}
  {tree tree' : FileTree} {targets : List Target} {scanned : Scan} {target : Target}
  {report : TargetReport} {reports : List TargetReport} {d : Draft} {ds : List Draft}
  {totals : Summary} {path old : Text}

/-! ### Drafts -/

/-- The revision that a resolution asks of the document of a target. -/
def Target.revision (target : Target) (resolution : Resolution) : Document.Revision :=
  ⟨target.layout, target.shape, resolution.mappings⟩

/-- A draft is the revision of the text that the tree has for its target. -/
structure Draft.From (d : Draft) (tree : FileTree) : Prop where
  read : tree.textAt d.target.path = .ok d.old
  revised : (d.target.revision d.resolution).apply d.old = .ok d.updated

/-- A target is drafted with its report. -/
theorem draft_eq_ok_iff :
    draft tree target report = .ok d ↔
      d.target = target ∧ d.resolution = report.resolution ∧ d.From tree := by
  constructor
  · intro h
    unfold draft at h
    split at h
    · simp at h
    next old hread =>
      simp only at h
      split at h
      · simp at h
      next updated hrevised =>
        simp only [Except.ok.injEq] at h
        subst h
        exact ⟨rfl, rfl, hread, hrevised⟩
  · obtain ⟨target', resolution, old, updated⟩ := d
    rintro ⟨rfl, rfl, hread, hrevised⟩
    have hupdate : Document.update target'.layout
        (target'.shape.render report.resolution.mappings (.detect old)) old = .ok updated := hrevised
    have hold : tree.textAt target'.path = .ok old := hread
    simp only [draft, hold, hupdate]

/-- There is one draft for every target, in order. -/
theorem drafts_eq_ok_iff {pairs : List (Target × TargetReport)} :
    drafts tree pairs = .ok ds ↔
      List.Forall₂ (fun pair d => draft tree pair.1 pair.2 = .ok d) pairs ds := by
  induction pairs generalizing ds with
  | nil => cases ds <;> simp [drafts]
  | cons pair pairs ih =>
    obtain ⟨target, report⟩ := pair
    rw [drafts]
    cases hfirst : draft tree target report with
    | error fault => cases ds <;> simp [hfirst]
    | ok first =>
      simp only [map_eq_ok_iff, ih]
      cases ds with
      | nil => simp
      | cons d ds => simp [hfirst, and_comm]

/-- Every draft is the revision of the text that the tree has. -/
theorem from_of_mem_drafts {pairs : List (Target × TargetReport)} (h : drafts tree pairs = .ok ds)
    (hd : d ∈ ds) : d.From tree := by
  rw [drafts_eq_ok_iff, List.forall₂_iff_get] at h
  obtain ⟨hlength, hall⟩ := h
  obtain ⟨i, hi, rfl⟩ := List.getElem_of_mem hd
  exact (draft_eq_ok_iff.mp (hall i (by omega) hi)).2.2

/-- The drafts are those of the targets, in order. -/
theorem targets_of_drafts {pairs : List (Target × TargetReport)} (h : drafts tree pairs = .ok ds) :
    ds.map Draft.target = pairs.map Prod.fst := by
  rw [drafts_eq_ok_iff] at h
  induction h with
  | nil => rfl
  | cons hd _ ih => rw [List.map_cons, List.map_cons, ih, (draft_eq_ok_iff.mp hd).1]

/-! ### Reports -/

/-- The report of a target tells what became of the types below its base. -/
theorem resolve_of_resolveTarget (h : resolveTarget config scanned target = .ok report) :
    config.routePolicy.resolve scanned.store (scanned.index.subtypesOf target.baseType) =
      .ok report.resolution := by
  unfold resolveTarget at h
  split at h
  · simp at h
  next resolution hresolved =>
    rw [hresolved, ← Except.ok.inj h]

/-- There is one report for every target, in order. -/
theorem resolve_eq_ok_iff :
    resolve config scanned targets = .ok reports ↔
      List.Forall₂ (fun target report => resolveTarget config scanned target = .ok report)
        targets reports := by
  induction targets generalizing reports with
  | nil => cases reports <;> simp [resolve]
  | cons target targets ih =>
    rw [resolve]
    cases hfirst : resolveTarget config scanned target with
    | error fault => cases reports <;> simp [hfirst]
    | ok first =>
      simp only [map_eq_ok_iff, ih]
      cases reports with
      | nil => simp
      | cons report reports => simp [hfirst, and_comm]

/-- Every target is paired with its report. -/
theorem targets_of_zip (h : resolve config scanned targets = .ok reports) :
    (targets.zip reports).map Prod.fst = targets :=
  List.map_fst_zip (resolve_eq_ok_iff.mp h).length_eq.le

/-- A run scans, resolves, drafts and writes. -/
theorem run_eq_ok_iff :
    run config reader tree artifacts targets = .ok (tree', totals) ↔
      ∃ scanned reports ds, scan config reader artifacts = .ok scanned ∧
        resolve config scanned targets = .ok reports ∧
        drafts tree (targets.zip reports) = .ok ds ∧
        tree' = write tree ds ∧ totals = summary scanned.stats ds := by
  constructor
  · intro h
    unfold run at h
    split at h
    · simp at h
    next scanned hscan =>
      split at h
      · simp at h
      next reports hreports =>
        split at h
        · simp at h
        next ds hdrafts =>
          simp only [Except.ok.injEq, Prod.mk.injEq] at h
          exact ⟨scanned, reports, ds, hscan, hreports, hdrafts, h.1.symm, h.2.symm⟩
  · rintro ⟨scanned, reports, ds, hscan, hreports, hdrafts, rfl, rfl⟩
    simp only [run, hscan, hreports, hdrafts]

/-- The resolution of a draft is the one of its target. -/
theorem resolved_of_mem_drafts (hreports : resolve config scanned targets = .ok reports)
    (hdrafts : drafts tree (targets.zip reports) = .ok ds) (hd : d ∈ ds) :
    ∃ report, resolveTarget config scanned d.target = .ok report ∧
      report.resolution = d.resolution := by
  rw [resolve_eq_ok_iff] at hreports
  rw [drafts_eq_ok_iff] at hdrafts
  induction hreports generalizing ds with
  | nil => cases hdrafts with | nil => simp at hd
  | cons hreport _ ih =>
    rw [List.zip_cons_cons] at hdrafts
    cases hdrafts with
    | cons hdraft hdrafts =>
      obtain ⟨htarget, hresolution, -⟩ := draft_eq_ok_iff.mp hdraft
      rcases List.mem_cons.mp hd with rfl | hd
      · exact ⟨_, htarget ▸ hreport, hresolution.symm⟩
      · exact ih hdrafts hd

/-- A successful run has a draft for every target, in order, and has written them. -/
theorem drafts_of_run (h : run config reader tree artifacts targets = .ok (tree', totals)) :
    ∃ scanned ds, scan config reader artifacts = .ok scanned ∧ ds.map Draft.target = targets ∧
      (∀ d ∈ ds, d.From tree ∧ ∃ report, resolveTarget config scanned d.target = .ok report ∧
        report.resolution = d.resolution) ∧
      tree' = write tree ds ∧ totals = summary scanned.stats ds := by
  obtain ⟨scanned, reports, ds, hscan, hreports, hdrafts, rfl, rfl⟩ := run_eq_ok_iff.mp h
  refine ⟨scanned, ds, hscan, (targets_of_drafts hdrafts).trans (targets_of_zip hreports), ?_, rfl,
    rfl⟩
  intro d hd
  exact ⟨from_of_mem_drafts hdrafts hd, resolved_of_mem_drafts hreports hdrafts hd⟩

/-- The document of a target can be brought up to date: its routes can be resolved, the document
can be read, and it takes the region. -/
def Target.Ready (config : Config) (scanned : Scan) (tree : FileTree) (target : Target) : Prop :=
  ∃ report old updated, resolveTarget config scanned target = .ok report ∧
    tree.textAt target.path = .ok old ∧
    (target.revision report.resolution).apply old = .ok updated

/-- Targets that are ready can be resolved and drafted. -/
theorem exists_drafts (h : ∀ target ∈ targets, target.Ready config scanned tree) :
    ∃ reports ds, resolve config scanned targets = .ok reports ∧
      drafts tree (targets.zip reports) = .ok ds := by
  induction targets with
  | nil => exact ⟨[], [], rfl, rfl⟩
  | cons target targets ih =>
    obtain ⟨report, old, updated, hreport, hread, hrevised⟩ := h target List.mem_cons_self
    obtain ⟨reports, ds, hreports, hdrafts⟩ :=
      ih fun other hother => h other (List.mem_cons_of_mem target hother)
    have hdraft : draft tree target report = .ok ⟨target, report.resolution, old, updated⟩ :=
      draft_eq_ok_iff.mpr ⟨rfl, rfl, hread, hrevised⟩
    refine ⟨report :: reports, ⟨target, report.resolution, old, updated⟩ :: ds, ?_, ?_⟩
    · simp only [resolve, hreport, hreports, Except.map]
    · simp only [List.zip_cons_cons, drafts, hdraft, hdrafts, Except.map]

/-- A run succeeds exactly when it can scan and every target is ready. -/
theorem run_succeeds_iff :
    (∃ result, run config reader tree artifacts targets = .ok result) ↔
      ∃ scanned, scan config reader artifacts = .ok scanned ∧
        ∀ target ∈ targets, target.Ready config scanned tree := by
  constructor
  · rintro ⟨⟨tree', totals⟩, h⟩
    obtain ⟨scanned, ds, hscan, rfl, hds, -⟩ := drafts_of_run h
    refine ⟨scanned, hscan, List.forall_mem_map.mpr fun d hd => ?_⟩
    obtain ⟨hfrom, report, hreport, hresolution⟩ := hds d hd
    exact ⟨report, d.old, d.updated, hreport, hfrom.read, hresolution ▸ hfrom.revised⟩
  · rintro ⟨scanned, hscan, hready⟩
    obtain ⟨reports, ds, hreports, hdrafts⟩ := exists_drafts hready
    exact ⟨_, run_eq_ok_iff.mpr ⟨scanned, reports, ds, hscan, hreports, hdrafts, rfl, rfl⟩⟩

/-! ### Writing -/

/-- What the tree is when one draft is written. -/
def Draft.writeTo (d : Draft) (tree : FileTree) : FileTree :=
  if d.changed then tree.writeText d.target.path d.updated.text else tree

/-- The drafts are written one after the other. -/
theorem write_append (tree : FileTree) (ds : List Draft) (d : Draft) :
    write tree (ds ++ [d]) = d.writeTo (write tree ds) :=
  List.foldl_append

/-- Writing a draft moves no path, and leaves every place but that of a changed document. -/
theorem Draft.samePlaces_writeTo (h : tree.textAt d.target.path = .ok old) :
    FileTree.SamePlaces tree (d.writeTo tree) ∧
      ∀ place, (d.changed = true → tree.locate d.target.path ≠ .ok place) →
        (d.writeTo tree).node? place = tree.node? place := by
  unfold writeTo
  split
  next hchanged =>
    exact ⟨FileTree.samePlaces_writeText h _,
      fun place hne => FileTree.node?_writeText_of_ne (hne hchanged) _⟩
  next => exact ⟨.refl tree, fun _ _ => rfl⟩

/-- A path shows the updated text once its file is written, and what it showed before otherwise. -/
theorem Draft.textAt_writeTo (h : tree.textAt d.target.path = .ok old) (path : Text) :
    (d.changed = true ∧ tree.locate d.target.path = tree.locate path ∧
        (d.writeTo tree).textAt path = .ok d.updated.text) ∨
      ((d.changed = true → tree.locate d.target.path ≠ tree.locate path) ∧
        (d.writeTo tree).textAt path = tree.textAt path) := by
  unfold writeTo
  split
  next hchanged =>
    by_cases hplace : tree.locate d.target.path = tree.locate path
    · have hsame := FileTree.samePlaces_writeText h d.updated.text
      have hplace' : (tree.writeText d.target.path d.updated.text).locate path =
          (tree.writeText d.target.path d.updated.text).locate d.target.path := by
        rw [← hsame.locate_eq, ← hsame.locate_eq, hplace]
      refine .inl ⟨hchanged, hplace, (FileTree.textAt_congr hplace').trans ?_⟩
      exact FileTree.textAt_writeText_self h _
    · refine .inr ⟨fun _ => hplace, ?_⟩
      rw [FileTree.textAt, FileTree.contentAt_writeText_of_ne h _ (Ne.symm hplace), FileTree.textAt]
  next hchanged => exact .inr ⟨fun h => absurd h hchanged, rfl⟩

/-- What a path shows when drafts are written: the last one that changes its file gives it its
text. Without one the file has its old text. -/
inductive LastWritten (tree : FileTree) (ds : List Draft) (path old : Text) : Text → Prop
  | unwritten (h : ∀ d ∈ ds, d.changed = true → tree.locate d.target.path ≠ tree.locate path) :
      LastWritten tree ds path old old
  | written (before after : List Draft) (d : Draft) (hsplit : ds = before ++ d :: after)
      (hchanged : d.changed = true) (hplace : tree.locate d.target.path = tree.locate path)
      (hlast : ∀ e ∈ after, e.changed = true → tree.locate e.target.path ≠ tree.locate path) :
      LastWritten tree ds path old d.updated.text

/-- A draft that does not change the file of a path leaves it to the earlier ones. -/
theorem LastWritten.append {text : Text} (h : LastWritten tree ds path old text)
    (hd : d.changed = true → tree.locate d.target.path ≠ tree.locate path) :
    LastWritten tree (ds ++ [d]) path old text := by
  cases h with
  | unwritten hnone =>
    refine .unwritten fun e he => ?_
    rcases List.mem_append.mp he with he | he
    · exact hnone e he
    · rwa [List.mem_singleton.mp he]
  | written before after e hsplit hchanged hplace hlast =>
    refine .written before (after ++ [d]) e (by simp [hsplit]) hchanged hplace fun e' he' => ?_
    rcases List.mem_append.mp he' with he' | he'
    · exact hlast e' he'
    · rwa [List.mem_singleton.mp he']

/-- Whatever documents the drafts have, writing moves no path, leaves every place but those of
changed documents, and the last draft that changes a file gives it its text. -/
theorem write_any (hread : ∀ d ∈ ds, tree.textAt d.target.path = .ok d.old) :
    FileTree.SamePlaces tree (write tree ds) ∧
      (∀ place, (∀ d ∈ ds, d.changed = true → tree.locate d.target.path ≠ .ok place) →
        (write tree ds).node? place = tree.node? place) ∧
      ∀ path old, tree.textAt path = .ok old →
        ∃ text, (write tree ds).textAt path = .ok text ∧ LastWritten tree ds path old text := by
  induction ds using List.reverseRecOn with
  | nil => exact ⟨.refl tree, fun _ _ => rfl, fun path old h => ⟨old, h, .unwritten (by simp)⟩⟩
  | append_singleton ds d ih =>
    obtain ⟨hsame, hframe, htext⟩ := ih fun e he => hread e (List.mem_append_left _ he)
    -- the document of the last draft can be read after the writes before it
    obtain ⟨text, hbefore, -⟩ := htext _ _ (hread d (by simp))
    obtain ⟨hsame', hframe'⟩ := Draft.samePlaces_writeTo hbefore
    have hwrite := Draft.textAt_writeTo hbefore
    simp only [← hsame.locate_eq] at hframe' hwrite
    rw [write_append]
    refine ⟨hsame.trans hsame', ?_, ?_⟩
    · intro place hplace
      rw [hframe' place (hplace d (by simp))]
      exact hframe place fun e he => hplace e (List.mem_append_left _ he)
    · intro path old hold
      obtain ⟨shown, hshown, hlast⟩ := htext path old hold
      rcases hwrite path with ⟨hchanged, hplace, hwritten⟩ | ⟨hother, hkept⟩
      · exact ⟨_, hwritten, .written ds [] d rfl hchanged hplace (by simp)⟩
      · exact ⟨shown, hkept.trans hshown, hlast.append hother⟩

/-- When the documents are different files, writing gives each its updated text, moves no path and
leaves the other files. -/
theorem write_spec (hread : ∀ d ∈ ds, tree.textAt d.target.path = .ok d.old)
    (hdistinct : (ds.map fun d => tree.locate d.target.path).Nodup) :
    FileTree.SamePlaces tree (write tree ds) ∧
      (∀ d ∈ ds, (write tree ds).textAt d.target.path = .ok d.updated.text) ∧
      ∀ path, (∀ d ∈ ds, tree.locate path ≠ tree.locate d.target.path) →
        (write tree ds).contentAt path = tree.contentAt path := by
  obtain ⟨hsame, hframe, htext⟩ := write_any hread
  refine ⟨hsame, ?_, ?_⟩
  · intro d hd
    obtain ⟨text, hwritten, hlast⟩ := htext _ _ (hread d hd)
    rw [hwritten, Except.ok.injEq]
    cases hlast with
    | unwritten hnone =>
      -- a draft that is not written leaves the old text
      have hunchanged : d.changed ≠ true := fun hchanged => hnone d hd hchanged rfl
      have hkept : d.updated.text = d.old := by simpa [Draft.changed] using hunchanged
      exact hkept.symm
    | written before after e hsplit hchanged hplace hlast =>
      -- no other draft names the file
      have he : e ∈ ds := by simp [hsplit]
      rw [List.inj_on_of_nodup_map hdistinct he hd hplace]
  · intro path hpath
    exact hsame.contentAt_eq fun place hplace => hframe place fun d hd _ hown =>
      hpath d hd (hplace.trans hown.symm)

/-- A draft of a file that no other draft names changes it exactly when it says so. -/
theorem changed_iff_contentAt (hread : ∀ d ∈ ds, tree.textAt d.target.path = .ok d.old)
    (hdistinct : (ds.map fun d => tree.locate d.target.path).Nodup) (hd : d ∈ ds) :
    d.changed = true ↔
      (write tree ds).contentAt d.target.path ≠ tree.contentAt d.target.path := by
  obtain ⟨hsame, hframe, -⟩ := write_any hread
  constructor
  · intro hchanged hcontent
    have htext := (write_spec hread hdistinct).2.1 d hd
    rw [FileTree.textAt, hcontent, ← FileTree.textAt, hread d hd, Except.ok.injEq] at htext
    simp [Draft.changed, htext] at hchanged
  · intro hcontent
    by_contra hunchanged
    refine hcontent (hsame.contentAt_eq fun place hplace => hframe place fun e he hchanged hown => ?_)
    -- a changed draft of the same file would be this one
    obtain rfl := List.inj_on_of_nodup_map hdistinct he hd (hown.trans hplace.symm)
    exact hunchanged hchanged

/-- Writing leaves every file as it is exactly when no draft changes its document. -/
theorem contentAt_write_iff (hread : ∀ d ∈ ds, tree.textAt d.target.path = .ok d.old)
    (hdistinct : (ds.map fun d => tree.locate d.target.path).Nodup) :
    (∀ path, (write tree ds).contentAt path = tree.contentAt path) ↔
      ∀ d ∈ ds, d.changed = false := by
  constructor
  · intro hcontent d hd
    simpa [hcontent] using changed_iff_contentAt hread hdistinct hd
  · intro hunchanged path
    obtain ⟨hsame, hframe, -⟩ := write_any hread
    refine hsame.contentAt_eq fun place _ => hframe place fun d hd hchanged => ?_
    -- a draft that changes nothing is not written
    exact absurd hchanged (by simp [hunchanged d hd])

end ServletRoutes.Generate
