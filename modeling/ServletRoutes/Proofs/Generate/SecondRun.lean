import ServletRoutes.Proofs.Generate.Run

/-!
# `ServletRoutes.Proofs.Generate.SecondRun`: running twice

A second run reads what the first one wrote. It scans the same artifacts and
resolves the same routes, so every document is revised as it was before
(`drafts_again`). `run_run` says what becomes of it: the second run succeeds,
replaces every region, and changes nothing apart from the documents in which
the first run opened a region right behind a lone carriage return.
`run_run_loneReturn` is such a document.
-/

set_option autoImplicit false

namespace ServletRoutes.Generate

variable {tree tree' : FileTree} {target : Target} {report : TargetReport} {d e : Draft}
  {ds : List Draft}

/-- The document of a target has no region yet, and one would be opened right behind a lone
carriage return. -/
def Target.opensAtReturn (target : Target) (tree : FileTree) : Bool :=
  match tree.textAt target.path with
  | .ok document => target.layout.opensAtReturn document
  | .error _ => false

/-- A target can be drafted again from the text that its first draft gave it. That changes the
text only if the first draft opened the region behind a lone carriage return. -/
theorem draft_again (hdraft : draft tree target report = .ok d)
    (hwritten : tree'.textAt d.target.path = .ok d.updated.text) :
    ∃ e, draft tree' target report = .ok e ∧ e.updated.action = .replaced ∧
      e.changed = target.opensAtReturn tree := by
  obtain ⟨rfl, hresolution, hfrom⟩ := draft_eq_ok_iff.mp hdraft
  obtain ⟨again, hagain, hsame⟩ := Document.Revision.apply_apply hfrom.revised
  refine ⟨⟨d.target, d.resolution, d.updated.text, ⟨again, .replaced⟩⟩, ?_, rfl, ?_⟩
  · exact draft_eq_ok_iff.mpr ⟨rfl, hresolution, hwritten, hagain⟩
  · have hsame' : again = d.updated.text ↔ d.target.layout.opensAtReturn d.old = false := hsame
    rw [Target.opensAtReturn, hfrom.read, Draft.changed, Bool.eq_iff_iff, decide_eq_true_iff,
      ne_eq, hsame', Bool.not_eq_false]

/-- All targets can be drafted again from the texts that their first drafts gave them. -/
theorem drafts_again {pairs : List (Target × TargetReport)} (hdrafts : drafts tree pairs = .ok ds)
    (hwritten : ∀ d ∈ ds, tree'.textAt d.target.path = .ok d.updated.text) :
    ∃ es, drafts tree' pairs = .ok es ∧ (∀ e ∈ es, e.updated.action = .replaced) ∧
      es.map Draft.changed = pairs.map fun pair => pair.1.opensAtReturn tree := by
  simp only [drafts_eq_ok_iff] at hdrafts ⊢
  induction hdrafts with
  | nil => exact ⟨[], .nil, by simp, rfl⟩
  | cons hd _ ih =>
    obtain ⟨e, he, hreplaced, hchanged⟩ := draft_again hd (hwritten _ List.mem_cons_self)
    obtain ⟨es, hes, hreplaced', hchanged'⟩ := ih fun d hd => hwritten d (List.mem_cons_of_mem _ hd)
    refine ⟨e :: es, .cons he hes, ?_, ?_⟩
    · exact List.forall_mem_cons.mpr ⟨hreplaced, hreplaced'⟩
    · rw [List.map_cons, List.map_cons, hchanged, hchanged']

/-- After a successful run on targets that name different files, a second run
* succeeds and replaces the region of every target;
* reports a document as changed exactly when the first run opened its region right behind a lone
  carriage return;
* leaves every file as it is exactly when the first run opened no region there. -/
theorem run_run (config : Config) (reader : ArtifactReader) (tree tree' : FileTree)
    (artifacts : List Text) (targets : List Target) (first : Summary)
    (hdistinct : (targets.map fun target => tree.locate target.path).Nodup)
    (h : run config reader tree artifacts targets = .ok (tree', first)) :
    ∃ tree'' second, run config reader tree' artifacts targets = .ok (tree'', second) ∧
      (∀ document ∈ second.documents, document.action = .replaced) ∧
      second.documents.map DocumentReport.changed =
        targets.map (fun target => target.opensAtReturn tree) ∧
      ((∀ path, tree''.contentAt path = tree'.contentAt path) ↔
        ∀ target ∈ targets, target.opensAtReturn tree = false) := by
  obtain ⟨scanned, reports, ds, hscan, hreports, hdrafts, rfl, rfl⟩ := run_eq_ok_iff.mp h
  have hzip : (targets.zip reports).map Prod.fst = targets := targets_of_zip hreports
  have htargets : ds.map Draft.target = targets := (targets_of_drafts hdrafts).trans hzip
  obtain ⟨hplaces, hwritten, -⟩ := write_spec (fun d hd => (from_of_mem_drafts hdrafts hd).read)
    (by rwa [← htargets, List.map_map] at hdistinct)
  -- the second run has the same scan and the same reports, so it only drafts anew
  obtain ⟨es, hagain, hreplaced, hchanged⟩ := drafts_again hdrafts hwritten
  have htargets' : es.map Draft.target = targets := (targets_of_drafts hagain).trans hzip
  have hflags : es.map Draft.changed = targets.map fun target => target.opensAtReturn tree := by
    have hmap := congrArg (List.map fun target => target.opensAtReturn tree) hzip
    rw [List.map_map] at hmap
    exact hchanged.trans hmap
  refine ⟨write (write tree ds) es, summary scanned.stats es, ?_, ?_, ?_, ?_⟩
  · exact run_eq_ok_iff.mpr ⟨scanned, reports, es, hscan, hreports, hagain, rfl, rfl⟩
  · intro document hdocument
    obtain ⟨e, he, rfl⟩ := List.mem_map.mp hdocument
    exact hreplaced e he
  · rw [← hflags]
    simp only [summary, List.map_map]
    rfl
  · -- no path was moved, so the targets still name different files
    have hdistinct' : (es.map fun e => (write tree ds).locate e.target.path).Nodup := by
      simp only [← hplaces.locate_eq]
      rwa [← htargets', List.map_map] at hdistinct
    have hnone : (∀ e ∈ es, e.changed = false) ↔
        ∀ target ∈ targets, target.opensAtReturn tree = false := by
      rw [← List.forall_mem_map (P := (· = false)), hflags, List.forall_mem_map]
    rw [contentAt_write_iff (fun e he => (from_of_mem_drafts hagain he).read) hdistinct', hnone]

/-! ### One document -/

/-- A working directory with one document. -/
def oneDocument (document : Text) : FileTree :=
  ⟨[(Place.working.child "web.xml".toList, .file (Text.Utf8.encode document))]⟩

/-- The document as a servlet descriptor. -/
def oneTarget : Target := ⟨"B".toList, "web.xml".toList, .webApp, .servletMappings false, {}⟩

/-- A reader that reads nothing. -/
def noArtifacts : ArtifactReader := ⟨fun _ => false, fun _ _ => none⟩

/-- A run that updates the one document to a text. -/
def oneRun (document : Text) (action : Document.Action) (changed : Bool) : FileTree × Summary :=
  (oneDocument document,
    ⟨0, 0, 0, [⟨"web.xml".toList, action, changed, 0⟩], ⟨0, 0, 0, 0, 0, 0⟩⟩)

/-- A descriptor with an empty region, by the line ending before the region and the one inside. -/
def openedBehind (ending inner : Document.LineEnding) : Text :=
  "<web-app>".toList ++ ending.text ++ "    ".toList ++ Document.startMarker ++ inner.text ++
    "    ".toList ++ Document.endMarker ++ "\n</web-app>".toList

/-- A descriptor without carriage returns is left alone by the second run. -/
theorem run_run_noReturn :
    ([oneTarget].map fun target =>
        (oneDocument "<web-app></web-app>".toList).locate target.path).Nodup ∧
      run { includeExclude := [] } noArtifacts (oneDocument "<web-app></web-app>".toList) []
          [oneTarget] = .ok (oneRun (openedBehind .lf .lf) .inserted true) ∧
      ∃ tree'' second, run { includeExclude := [] } noArtifacts
          (oneDocument (openedBehind .lf .lf)) [] [oneTarget] = .ok (tree'', second) ∧
        second.documents.map DocumentReport.changed = [false] ∧
        ∀ path, tree''.contentAt path =
          (oneDocument (openedBehind .lf .lf)).contentAt path := by
  have hdistinct : ([oneTarget].map fun target =>
      (oneDocument "<web-app></web-app>".toList).locate target.path).Nodup :=
    List.pairwise_singleton _ _
  have hfirst : run { includeExclude := [] } noArtifacts
      (oneDocument "<web-app></web-app>".toList) [] [oneTarget] =
        .ok (oneRun (openedBehind .lf .lf) .inserted true) :=
    eq_ok_of_toOption (by decide +kernel)
  have hnone : oneTarget.opensAtReturn (oneDocument "<web-app></web-app>".toList) = false := by
    decide +kernel
  obtain ⟨tree'', second, hsecond, -, hflags, hsame⟩ :=
    run_run _ _ _ _ _ _ _ hdistinct hfirst
  refine ⟨hdistinct, hfirst, tree'', second, hsecond, ?_, ?_⟩
  · rw [hflags, List.map_singleton, hnone]
  · exact hsame.mpr fun target htarget => by rw [List.mem_singleton.mp htarget, hnone]

/-- The first run opens a region behind a lone carriage return. The second one takes the two
characters for the line ending of the document and renders every line anew. -/
theorem run_run_loneReturn :
    run { includeExclude := [] } noArtifacts (oneDocument "<web-app>\r</web-app>".toList) []
        [oneTarget] = .ok (oneRun (openedBehind .crlf .lf) .inserted true) ∧
      run { includeExclude := [] } noArtifacts (oneDocument (openedBehind .crlf .lf)) []
        [oneTarget] = .ok (oneRun (openedBehind .crlf .crlf) .replaced true) ∧
      openedBehind .crlf .crlf ≠ openedBehind .crlf .lf :=
  ⟨eq_ok_of_toOption (by decide +kernel), eq_ok_of_toOption (by decide +kernel),
    by decide +kernel⟩

end ServletRoutes.Generate
