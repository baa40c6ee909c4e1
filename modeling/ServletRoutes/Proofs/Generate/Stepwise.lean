import ServletRoutes.Generate.Stepwise
import ServletRoutes.Proofs.Generate.SecondRun

/-!
# `ServletRoutes.Proofs.Generate.Stepwise`: all or nothing

Two loops make up a run. The first one goes through the targets. It leaves
the files alone, and what it has counted and put down is at every moment
that of the drafts so far (`Progress.foldlM_advance_on`). The second one
writes what was put down (`forM_writeDocument_on`). So the steps of a run
come to what `run` says at once (`perform_on`).

`perform_all_or_nothing` follows: a run that fails at whatever step has
touched nothing, and one that succeeds has brought up to date its targets
and nothing else. `perform_all_or_nothing_secondFails` has a second document
without a place for a region.
-/

set_option autoImplicit false

namespace ServletRoutes.Generate

variable {config : Config} {reader : ArtifactReader} {artifacts : List Text}
  {tree tree' : FileTree} {targets : List Target} {totals : Summary}

/-! ### Work on files -/

namespace FileWork

variable {α β : Type}

/-- A value leaves the tree as it is. -/
@[simp] theorem on_pure (a : α) (tree : FileTree) : (pure a : FileWork α).on tree = (.ok a, tree) :=
  rfl

/-- Work goes on with the tree that the work before has left, and only if that did not fail. -/
@[simp] theorem on_bind (work : FileWork α) (next : α → FileWork β) (tree : FileTree) :
    (work >>= next).on tree =
      match work.on tree with
      | (.error fault, tree') => (.error fault, tree')
      | (.ok a, tree') => (next a).on tree' := by
  simp only [on, ExceptT.run, StateT.run, bind, ExceptT.bind, ExceptT.mk, StateT.bind,
    ExceptT.bindCont]
  rcases work tree with ⟨outcome, tree'⟩
  cases outcome <;> rfl

/-- A question leaves the tree. -/
@[simp] theorem on_ask (question : FileTree → Except Fault α) (tree : FileTree) :
    (ask question).on tree = (question tree, tree) := by
  have hget : (get : FileWork FileTree).on tree = (.ok tree, tree) := rfl
  simp only [ask, on_bind, hget]
  cases question tree <;> rfl

/-- Writing a document writes the file. -/
@[simp] theorem on_writeDocument (document : Text × Text) (tree : FileTree) :
    (writeDocument document).on tree = (.ok (), tree.writeText document.1 document.2) :=
  rfl

end FileWork

/-! ### The loop over the targets -/

namespace Progress

/-- What has been counted and put down when drafts have been made. -/
def ofDrafts (stats : ScanStats) (ds : List Draft) : Progress :=
  ⟨summary stats ds, (ds.filter Draft.changed).map fun d => (d.target.path, d.updated.text)⟩

/-- Before the first draft nothing is counted or put down. -/
theorem ofDrafts_nil (stats : ScanStats) : ofDrafts stats [] = start stats := rfl

/-- The next draft is counted, and put down if it changes its document. -/
theorem add_ofDrafts (stats : ScanStats) (ds : List Draft) (d : Draft) :
    (ofDrafts stats ds).add d = ofDrafts stats (ds ++ [d]) := by
  have htallied (counts : Tally → Bool) (number : Route.Resolution → Nat) :
      tallied counts number (ds ++ [d]) = tallied counts number ds +
        if counts d.target.tally then number d.resolution else 0 := by
    cases hcounts : counts d.target.tally <;> simp [tallied, List.filter_append, hcounts]
  cases hchanged : d.changed <;>
    simp [ofDrafts, add, summary, htallied, List.filter_append, hchanged]

/-- The loop leaves the files, and has at every moment counted and put down what the drafts so far
come to. The first draft that fails ends it. -/
theorem foldlM_advance_on (stats : ScanStats) (ds : List Draft) (pairs : List (Target × TargetReport))
    (tree : FileTree) :
    (pairs.foldlM advance (ofDrafts stats ds)).on tree =
      ((drafts tree pairs).map fun es => ofDrafts stats (ds ++ es), tree) := by
  induction pairs generalizing ds with
  | nil => simp [drafts, Except.map]
  | cons pair pairs ih =>
    obtain ⟨target, report⟩ := pair
    rw [List.foldlM_cons, FileWork.on_bind, advance, FileWork.on_bind, FileWork.on_ask, drafts]
    cases hdraft : draft tree target report with
    | error fault => rfl
    | ok d =>
      simp only [FileWork.on_pure, add_ofDrafts, ih]
      cases drafts tree pairs <;> simp [Except.map]

end Progress

/-! ### The loop over the writes -/

/-- The documents that were put down are written one after the other. -/
theorem forM_writeDocument_on (documents : List (Text × Text)) (tree : FileTree) :
    (documents.forM writeDocument).on tree =
      (.ok (), documents.foldl (fun t document => t.writeText document.1 document.2) tree) := by
  induction documents generalizing tree with
  | nil => rfl
  | cons document documents ih =>
    simp only [List.forM_eq_forM, List.forM_cons, FileWork.on_bind, FileWork.on_writeDocument,
      List.foldl_cons] at ih ⊢
    exact ih _

/-- Only the changed documents are put down. -/
theorem foldl_pending (stats : ScanStats) (ds : List Draft) (tree : FileTree) :
    (Progress.ofDrafts stats ds).pending.foldl
      (fun t document => t.writeText document.1 document.2) tree = write tree ds := by
  rw [Progress.ofDrafts, List.foldl_map, List.foldl_filter, write]

/-! ### Whole runs -/

/-- The steps of a run come to what a run does. -/
theorem perform_on (config : Config) (reader : FileTree → ArtifactReader) (artifacts : List Text)
    (targets : List Target) (tree : FileTree) :
    (perform config reader artifacts targets).on tree =
      match run config (reader tree) tree artifacts targets with
      | .error fault => (.error fault, tree)
      | .ok (tree', totals) => (.ok totals, tree') := by
  simp only [perform, FileWork.on_bind, FileWork.on_ask, run]
  cases hscan : scan config (reader tree) artifacts with
  | error fault => rfl
  | ok scanned =>
    cases hreports : resolve config scanned targets with
    | error fault => simp only [hreports]
    | ok reports =>
      -- the loop over the targets gathers the drafts of the whole run
      have hloop := Progress.foldlM_advance_on scanned.stats [] (targets.zip reports) tree
      rw [Progress.ofDrafts_nil] at hloop
      simp only [hreports, hloop]
      cases drafts tree (targets.zip reports) with
      | error fault => rfl
      | ok ds =>
        simp only [Except.map, List.nil_append, forM_writeDocument_on, foldl_pending,
          FileWork.on_pure]
        rfl

/-- Steps that succeed are a run that succeeds. -/
theorem run_of_perform {reader : FileTree → ArtifactReader}
    (h : (perform config reader artifacts targets).on tree = (.ok totals, tree')) :
    run config (reader tree) tree artifacts targets = .ok (tree', totals) := by
  rw [perform_on] at h
  split at h
  · simp at h
  next written totals' hrun =>
    obtain ⟨htotals, rfl⟩ := Prod.mk.inj h
    rw [hrun, Except.ok.inj htotals]

/-- An inspection leaves the files. -/
theorem examine_on (config : Config) (reader : FileTree → ArtifactReader) (artifacts : List Text)
    (targets : List Target) (tree : FileTree) :
    (examine config reader artifacts targets).on tree =
      (inspect config (reader tree) artifacts targets, tree) := by
  simp only [examine, FileWork.on_bind, FileWork.on_ask, inspect]
  cases scan config (reader tree) artifacts <;> rfl

/-- A document has been brought up to date with the resolution of its target, and the report says
what happened to it. -/
structure Target.Settled (target : Target) (resolution : Route.Resolution) (tree tree' : FileTree)
    (document : DocumentReport) (old : Text) (updated : Document.Updated) : Prop where
  read : tree.textAt target.path = .ok old
  update : Document.update target.layout (target.shape.render resolution.mappings (.detect old)) old =
    .ok updated
  written : tree'.textAt target.path = .ok updated.text
  path : document.path = target.path
  action : document.action = updated.action
  changed : document.changed = true ↔ tree'.contentAt target.path ≠ tree.contentAt target.path
  mappings : document.mappings = resolution.mappings.length

/-- A successful run leaves what lies at places that no target names. -/
theorem node?_of_run {place : Place}
    (h : run config reader tree artifacts targets = .ok (tree', totals))
    (hplace : ∀ target ∈ targets, tree.locate target.path ≠ .ok place) :
    tree'.node? place = tree.node? place := by
  obtain ⟨scanned, ds, -, rfl, hds, rfl, -⟩ := drafts_of_run h
  obtain ⟨-, hframe, -⟩ := write_any fun d hd => (hds d hd).1.read
  exact hframe place fun d hd _ => hplace d.target (List.mem_map_of_mem hd)

/-- A successful run on different files has brought each of them up to date. -/
theorem settled_of_run (h : run config reader tree artifacts targets = .ok (tree', totals))
    (hdistinct : (targets.map fun target => tree.locate target.path).Nodup) :
    ∃ scanned, scan config reader artifacts = .ok scanned ∧
      List.Forall₂ (fun target document => ∃ report old updated,
          resolveTarget config scanned target = .ok report ∧
            target.Settled report.resolution tree tree' document old updated)
        targets totals.documents := by
  obtain ⟨scanned, ds, hscan, rfl, hds, rfl, rfl⟩ := drafts_of_run h
  have hdocuments : (summary scanned.stats ds).documents = ds.map Draft.report := rfl
  have hread : ∀ d ∈ ds, tree.textAt d.target.path = .ok d.old := fun d hd => (hds d hd).1.read
  refine ⟨scanned, hscan, ?_⟩
  -- no other target has the place, so what was written there is what is found
  rw [List.map_map] at hdistinct
  rw [hdocuments, List.forall₂_map_left_iff, List.forall₂_map_right_iff, List.forall₂_same]
  intro d hd
  obtain ⟨hfrom, report, hreport, hresolution⟩ := hds d hd
  refine ⟨report, d.old, d.updated, hreport, ?_⟩
  rw [hresolution]
  exact {
    read := hfrom.read
    update := hfrom.revised
    written := (write_spec hread hdistinct).2.1 d hd
    path := rfl
    action := rfl
    changed := changed_iff_contentAt hread hdistinct hd
    mappings := rfl }

/-- A run is all or nothing, and touches nothing but the documents of its targets.
* It succeeds exactly when it can scan, and every target can be resolved and has a document that can
  be read and takes its region.
* If it fails, at whatever step and target, all files are as they were.
* If it succeeds, what lies at a place that no target names is as it was. When the targets name
  different files, each of these holds the text of its update, rendered from the resolution of the
  target with the line ending of the old text, and the report says what was done and whether the
  content is another one.
* An inspection leaves all files as they were. -/
theorem perform_all_or_nothing (config : Config) (reader : FileTree → ArtifactReader)
    (artifacts : List Text) (targets : List Target) (tree tree' : FileTree) :
    ((∃ totals, ((perform config reader artifacts targets).on tree).1 = .ok totals) ↔
      ∃ scanned, scan config (reader tree) artifacts = .ok scanned ∧
        ∀ target ∈ targets, target.Ready config scanned tree) ∧
    (∀ fault, (perform config reader artifacts targets).on tree = (.error fault, tree') →
      tree' = tree) ∧
    (∀ totals, (perform config reader artifacts targets).on tree = (.ok totals, tree') →
      (∀ place, (∀ target ∈ targets, tree.locate target.path ≠ .ok place) →
        tree'.node? place = tree.node? place) ∧
      ((targets.map fun target => tree.locate target.path).Nodup →
        ∃ scanned, scan config (reader tree) artifacts = .ok scanned ∧
          List.Forall₂ (fun target document => ∃ report old updated,
              resolveTarget config scanned target = .ok report ∧
                target.Settled report.resolution tree tree' document old updated)
            targets totals.documents)) ∧
    ((examine config reader artifacts targets).on tree).2 = tree := by
  -- the steps come to what the whole run does, of which each part is known
  have hsteps := perform_on config reader artifacts targets tree
  refine ⟨?_, ?_, ?_, by rw [examine_on]⟩
  · rw [hsteps, ← run_succeeds_iff]
    cases run config (reader tree) tree artifacts targets <;> simp
  · intro fault h
    rw [hsteps] at h
    split at h
    · exact (Prod.mk.inj h).2.symm
    · simp at h
  · intro totals h
    rw [hsteps] at h
    split at h
    · simp at h
    next written totals' hrun =>
      obtain ⟨htotals, rfl⟩ := Prod.mk.inj h
      obtain rfl := Except.ok.inj htotals
      exact ⟨fun place hplace => node?_of_run hrun hplace,
        fun hdistinct => settled_of_run hrun hdistinct⟩

/-! ### Two documents -/

/-- A working directory with a servlet descriptor and an application descriptor. -/
def twoDocuments (first second : Text) : FileTree :=
  ⟨(oneDocument first).nodes ++
    [(Place.working.child "app.xml".toList, .file (Text.Utf8.encode second))]⟩

/-- The second document as an application descriptor. -/
def appTarget : Target := ⟨"B".toList, "app.xml".toList, .appEngineWebApp, .systemProperties, {}⟩

/-- The two documents, with a reader that reads nothing. -/
def performTwo : FileWork Summary :=
  perform { includeExclude := [] } (fun _ => noArtifacts) [] [oneTarget, appTarget]

/-- The second document has no place for a region, so the first one is not written either. With a
place for it both are. -/
theorem perform_all_or_nothing_secondFails :
    let broken := twoDocuments "<web-app></web-app>".toList []
    let whole := twoDocuments "<web-app></web-app>".toList "</system-properties>".toList
    ((performTwo.on broken).1.toOption = none ∧ (performTwo.on broken).2 = broken) ∧
      ([oneTarget, appTarget].map fun target => whole.locate target.path).Nodup ∧
      ∃ totals tree', performTwo.on whole = (.ok totals, tree') ∧
        totals.documents.map DocumentReport.changed = [true, true] ∧
        List.Forall₂ (fun target document => ∃ resolution old updated,
            target.Settled resolution whole tree' document old updated)
          [oneTarget, appTarget] totals.documents := by
  intro broken whole
  have hbroken : (performTwo.on broken).1.toOption = none := by decide +kernel
  have hdistinct : ([oneTarget, appTarget].map fun target => whole.locate target.path).Nodup := by
    decide +kernel
  have hwhole : ((performTwo.on whole).1.toOption.map fun totals =>
      totals.documents.map DocumentReport.changed) = some [true, true] := by decide +kernel
  refine ⟨⟨hbroken, ?_⟩, hdistinct, ?_⟩
  · cases h : performTwo.on broken with
    | mk outcome tree' =>
      cases outcome with
      | ok totals => simp [h, Except.toOption] at hbroken
      | error fault => exact (perform_all_or_nothing _ _ _ _ _ _).2.1 fault h
  · cases h : performTwo.on whole with
    | mk outcome tree' =>
      cases outcome with
      | error fault => simp [h, Except.toOption] at hwhole
      | ok totals =>
        obtain ⟨scanned, -, hsettled⟩ :=
          ((perform_all_or_nothing _ _ _ _ _ _).2.2.1 totals h).2 hdistinct
        refine ⟨totals, tree', rfl, by simpa [h, Except.toOption] using hwhole, ?_⟩
        refine hsettled.imp fun target document hdocument => ?_
        obtain ⟨report, old, updated, -, hdocument⟩ := hdocument
        exact ⟨report.resolution, old, updated, hdocument⟩

end ServletRoutes.Generate
