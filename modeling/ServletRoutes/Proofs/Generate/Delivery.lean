import ServletRoutes.Proofs.Document.Rendering
import ServletRoutes.Proofs.Generate.Regrouping
import ServletRoutes.Proofs.Generate.SecondRun

/-!
# `ServletRoutes.Proofs.Generate.Delivery`: what reaches the documents

Every draft is made from the text that its document has at the start. When
several targets name one file, the last of their drafts that changes it takes
the place of the others (`LastWritten`), while the reports tell of each draft
as if it were the only one.

So a run delivers the fragments of all its targets exactly when targets that
name one file have the same fragment (`run_delivers_iff`). The servlet
descriptor and the application descriptor never do, since their fragments
end in different indentations (`Shape.render_servletMappings_ne`): in one
file, one of them is lost (`run_defaults_delivers_iff`). In
`run_delivers_lost` that is the servlet of a handler.
-/

set_option autoImplicit false

namespace ServletRoutes.Generate

open Document (Region)

variable {config : Config} {reader : ArtifactReader} {artifacts : List Text}
  {tree tree' : FileTree} {targets : List Target} {d e : Draft} {ds : List Draft} {totals : Summary}

/-- The fragment that a target asks for, from the text that its document has. -/
def Target.fragment (config : Config) (scanned : Scan) (tree : FileTree) (target : Target) :
    Except Fault Text :=
  match resolveTarget config scanned target, tree.textAt target.path with
  | .error fault, _ => .error fault
  | .ok _, .error fault => .error (.documentFile target.path fault)
  | .ok report, .ok old => .ok ((target.revision report.resolution).fragment old)

/-- After a run the region of a document holds a fragment, and the report says what happened to the
document. -/
structure DocumentReport.Delivers (document : DocumentReport) (tree tree' : FileTree) (path : Text)
    (fragment : Text) : Prop where
  held : ∃ new r, tree'.textAt path = .ok new ∧ Region.locate? new = .ok (some r) ∧ r.body = fragment
  action : document.action = .replaced ↔
    ∃ old r, tree.textAt path = .ok old ∧ Region.locate? old = .ok (some r)
  changed : document.changed = true ↔ tree'.textAt path ≠ tree.textAt path

/-! ### Drafts -/

/-- The fragment of a draft. -/
def Draft.fragment (d : Draft) : Text := (d.target.revision d.resolution).fragment d.old

namespace Draft.From

/-- The updated text has a region with the fragment. -/
theorem locate?_updated (h : d.From tree) :
    ∃ r, Region.locate? d.updated.text = .ok (some r) ∧ r.body = d.fragment := by
  obtain ⟨r, -, htext, hlocated⟩ :=
    Document.locate?_of_update (Document.Revision.endMarker_not_infix_fragment _ _) h.revised
  exact ⟨_, htext ▸ hlocated.locate?_text, rfl⟩

/-- A region is replaced exactly where there was one. -/
theorem action_iff (h : d.From tree) :
    d.updated.action = .replaced ↔ ∃ r, Region.locate? d.old = .ok (some r) := by
  obtain ⟨r, hplace, -⟩ := Document.update_eq_ok_iff.mp h.revised
  constructor
  · intro hreplaced
    rcases Document.Layout.place_cases hplace with ⟨-, hold, hlocated⟩ | ⟨hinserted, -⟩
    · exact ⟨r, hold ▸ hlocated.locate?_text⟩
    · simp [hreplaced] at hinserted
  · rintro ⟨own, hown⟩
    obtain ⟨hold, hlocated⟩ := Region.locate?_eq_some_iff.mp hown
    rw [hold, Document.Layout.place_text hlocated, Except.ok.injEq, Prod.mk.injEq] at hplace
    exact hplace.2.symm

/-- A document stays as it is exactly when its region already holds the fragment. -/
theorem unchanged_iff (h : d.From tree) :
    d.changed = false ↔ ∃ r, Region.locate? d.old = .ok (some r) ∧ r.body = d.fragment := by
  have hchanged : d.changed = false ↔ d.updated.text = d.old := by simp [Draft.changed]
  rw [hchanged]
  constructor
  · intro hsame
    rw [← hsame]
    exact h.locate?_updated
  · rintro ⟨r, hown, hbody⟩
    obtain ⟨hold, hlocated⟩ := Region.locate?_eq_some_iff.mp hown
    have hagain := Document.update_text hlocated d.target.layout d.fragment
    have hrevised : Document.update d.target.layout d.fragment r.text = .ok d.updated := by
      rw [← hold]
      exact h.revised
    rw [hagain, Except.ok.injEq] at hrevised
    rw [← hrevised, ← hbody, hold]
    rfl

end Draft.From

/-- The drafts for one file change it both or not at all if they have the same fragment. -/
theorem changed_eq_of_fragment_eq (hd : d.From tree) (he : e.From tree) (hold : d.old = e.old)
    (hfragment : d.fragment = e.fragment) : d.changed = e.changed := by
  have hiff : d.changed = false ↔ e.changed = false := by
    rw [hd.unchanged_iff, he.unchanged_iff, hold, hfragment]
  cases hchanged : d.changed <;> cases hchanged' : e.changed <;> simp_all

/-- Drafts for one file start from one text. -/
theorem old_eq_of_locate_eq (hd : d.From tree) (he : e.From tree)
    (hplace : tree.locate d.target.path = tree.locate e.target.path) : d.old = e.old := by
  have hread := FileTree.textAt_congr hplace
  rw [hd.read, he.read] at hread
  exact Except.ok.inj hread

/-- Written drafts are all delivered exactly when those for one file have the same fragment. -/
theorem delivers_write_iff (hfrom : ∀ d ∈ ds, d.From tree) :
    (∀ d ∈ ds, d.report.Delivers tree (write tree ds) d.target.path d.fragment) ↔
      ∀ d ∈ ds, ∀ e ∈ ds, tree.locate d.target.path = tree.locate e.target.path →
        d.fragment = e.fragment := by
  obtain ⟨hsame, -, htext⟩ := write_any fun d hd => (hfrom d hd).read
  constructor
  · intro hdelivered d hd e he hplace
    obtain ⟨new, r, hnew, hlocate, hbody⟩ := (hdelivered d hd).held
    obtain ⟨new', r', hnew', hlocate', hbody'⟩ := (hdelivered e he).held
    -- one file has one text, and this has one region
    have hplace' : (write tree ds).locate d.target.path = (write tree ds).locate e.target.path := by
      rw [← hsame.locate_eq, ← hsame.locate_eq, hplace]
    rw [FileTree.textAt_congr hplace', hnew', Except.ok.injEq] at hnew
    rw [← hnew, hlocate', Except.ok.injEq, Option.some.injEq] at hlocate
    rw [← hbody, ← hbody', hlocate]
  · intro hagree d hd
    obtain ⟨new, hnew, hlast⟩ := htext _ _ (hfrom d hd).read
    have haction : d.report.action = .replaced ↔
        ∃ old r, tree.textAt d.target.path = .ok old ∧ Region.locate? old = .ok (some r) := by
      simp only [(hfrom d hd).read, Except.ok.injEq, exists_and_left, exists_eq_left']
      exact (hfrom d hd).action_iff
    cases hlast with
    | unwritten hnone =>
      have hunchanged : d.changed = false := by
        simpa using fun hchanged => hnone d hd hchanged rfl
      obtain ⟨r, hlocate, hbody⟩ := (hfrom d hd).unchanged_iff.mp hunchanged
      refine ⟨⟨d.old, r, hnew, hlocate, hbody⟩, haction, ?_⟩
      simp [Draft.report, hunchanged, hnew, (hfrom d hd).read]
    | written before after e hsplit hchanged hplace =>
      have he : e ∈ ds := by simp [hsplit]
      have hfragment : d.fragment = e.fragment := hagree d hd e he hplace.symm
      have hold : d.old = e.old := old_eq_of_locate_eq (hfrom d hd) (hfrom e he) hplace.symm
      obtain ⟨r, hlocate, hbody⟩ := (hfrom e he).locate?_updated
      refine ⟨⟨e.updated.text, r, hnew, hlocate, hbody.trans hfragment.symm⟩, haction, ?_⟩
      have hdiffers : e.updated.text ≠ e.old := by simpa [Draft.changed] using hchanged
      have hchanged' : d.changed = true := by
        rw [changed_eq_of_fragment_eq (hfrom d hd) (hfrom e he) hold hfragment, hchanged]
      simp [Draft.report, hchanged', hnew, (hfrom d hd).read, hold, hdiffers]

/-! ### Whole runs -/

/-- A run has delivered the fragment of a target, and its report says so. -/
def Target.Delivered (config : Config) (scanned : Scan) (tree tree' : FileTree) (target : Target)
    (document : DocumentReport) : Prop :=
  ∃ fragment, target.fragment config scanned tree = .ok fragment ∧
    document.Delivers tree tree' target.path fragment

/-- The fragment of a draft is the one that its target asks for. -/
theorem fragment_of_draft {scanned : Scan} (hfrom : d.From tree)
    (hresolved : ∃ report, resolveTarget config scanned d.target = .ok report ∧
      report.resolution = d.resolution) :
    d.target.fragment config scanned tree = .ok d.fragment := by
  obtain ⟨report, hreport, hresolution⟩ := hresolved
  simp only [Target.fragment, hreport, hfrom.read, hresolution]
  rfl

/-- A successful run has drafts for its targets, in order, which all are delivered exactly when those
for one file have the same fragment. -/
theorem delivered_of_run (h : run config reader tree artifacts targets = .ok (tree', totals)) :
    ∃ scanned, ∃ ds : List Draft, scan config reader artifacts = .ok scanned ∧
      ds.map Draft.target = targets ∧
      (∀ d ∈ ds, d.target.fragment config scanned tree = .ok d.fragment) ∧
      (List.Forall₂ (Target.Delivered config scanned tree tree') targets totals.documents ↔
        ∀ d ∈ ds, ∀ e ∈ ds, tree.locate d.target.path = tree.locate e.target.path →
          d.fragment = e.fragment) := by
  obtain ⟨scanned, ds, hscan, rfl, hds, rfl, rfl⟩ := drafts_of_run h
  have hdocuments : (summary scanned.stats ds).documents = ds.map Draft.report := rfl
  have hfragment : ∀ d ∈ ds, d.target.fragment config scanned tree = .ok d.fragment :=
    fun d hd => fragment_of_draft (hds d hd).1 (hds d hd).2
  refine ⟨scanned, ds, hscan, rfl, hfragment, ?_⟩
  rw [← delivers_write_iff fun d hd => (hds d hd).1, hdocuments, List.forall₂_map_left_iff,
    List.forall₂_map_right_iff, List.forall₂_same]
  refine forall₂_congr fun d hd => ?_
  simp only [Target.Delivered, hfragment d hd, Except.ok.injEq, exists_eq_left']

/-- A successful run has delivered every target exactly when targets that name one file ask for the
same fragment. -/
theorem run_delivers_iff (config : Config) (reader : ArtifactReader) (tree tree' : FileTree)
    (artifacts : List Text) (targets : List Target) (totals : Summary)
    (h : run config reader tree artifacts targets = .ok (tree', totals)) :
    ∃ scanned, scan config reader artifacts = .ok scanned ∧
      (List.Forall₂ (Target.Delivered config scanned tree tree') targets totals.documents ↔
        ∀ target ∈ targets, ∀ other ∈ targets,
          tree.locate target.path = tree.locate other.path →
            target.fragment config scanned tree = other.fragment config scanned tree) := by
  obtain ⟨scanned, ds, hscan, rfl, hfragment, hdelivered⟩ := delivered_of_run h
  refine ⟨scanned, hscan, hdelivered.trans ?_⟩
  simp only [List.forall_mem_map]
  refine forall₂_congr fun d hd => forall₂_congr fun e he => ?_
  rw [hfragment d hd, hfragment e he, Except.ok.injEq]

/-! ### Two targets in one file -/

/-- A document with an anchor for each kind of descriptor. -/
def bothAnchors : FileTree :=
  oneDocument "<web-app></web-app><appengine-web-app></appengine-web-app>".toList

/-- A run on the one document, with one artifact that holds the handler. -/
def handlerRun (targets : List Target) : Except Fault (FileTree × Summary) :=
  run handlerConfig Route.handlerReader bothAnchors [['x']] targets

/-- The target for the handler, before another anchor. -/
def handlerElsewhere : Target := { handlerTarget with layout := .appEngineWebApp }

/-- The handler in the form of the application descriptor. -/
def handlerProperties : Target := { handlerElsewhere with shape := .systemProperties }

/-- Two targets with the same fragment are both delivered, though only the second one is written
last. -/
theorem run_delivers_oneFragment :
    ∃ tree' totals, handlerRun [handlerTarget, handlerElsewhere] = .ok (tree', totals) ∧
      totals.documents.map DocumentReport.changed = [true, true] ∧
      ∃ scanned, List.Forall₂ (Target.Delivered handlerConfig scanned bothAnchors tree')
        [handlerTarget, handlerElsewhere] totals.documents := by
  have hreports : (handlerRun [handlerTarget, handlerElsewhere]).toOption.map (fun result =>
      result.2.documents.map DocumentReport.changed) = some [true, true] := by decide +kernel
  cases h : handlerRun [handlerTarget, handlerElsewhere] with
  | error fault => simp [h, Except.toOption] at hreports
  | ok result =>
    obtain ⟨tree', totals⟩ := result
    obtain ⟨scanned, -, hdelivered⟩ := run_delivers_iff _ _ _ _ _ _ _ h
    refine ⟨tree', totals, rfl, by simpa [h, Except.toOption] using hreports, scanned,
      hdelivered.mpr fun target htarget other hother _ => ?_⟩
    -- the two differ in their layout only, which no fragment shows
    simp only [List.mem_cons, List.not_mem_nil, or_false] at htarget hother
    rcases htarget with rfl | rfl <;> rcases hother with rfl | rfl <;> rfl

/-- Two targets with different fragments are both reported as inserted, but the fragment of the first
one is nowhere in the document. -/
theorem run_delivers_lost :
    ∃ tree' totals scanned fragment new,
      handlerRun [handlerTarget, handlerProperties] = .ok (tree', totals) ∧
      scan handlerConfig Route.handlerReader [['x']] = .ok scanned ∧
      handlerTarget.fragment handlerConfig scanned bothAnchors = .ok fragment ∧
      tree'.textAt handlerTarget.path = .ok new ∧
      totals.documents.map (fun document => (document.action, document.changed)) =
        [(.inserted, true), (.inserted, true)] ∧
      ¬ fragment <:+: new := by
  have hcheck : ((handlerRun [handlerTarget, handlerProperties]).toOption.bind fun result =>
      (scan handlerConfig Route.handlerReader [['x']]).toOption.bind fun scanned =>
        (handlerTarget.fragment handlerConfig scanned bothAnchors).toOption.bind fun fragment =>
          (result.1.textAt handlerTarget.path).toOption.map fun new =>
            decide (result.2.documents.map (fun document => (document.action, document.changed)) =
              [(.inserted, true), (.inserted, true)] ∧ ¬ fragment <:+: new)) = some true := by
    decide +kernel
  simp only [Option.bind_eq_some_iff, Option.map_eq_some_iff, decide_eq_true_eq] at hcheck
  obtain ⟨⟨tree', totals⟩, hrun, scanned, hscan, fragment, hfragment, new, hnew, hresult⟩ := hcheck
  exact ⟨tree', totals, scanned, fragment, new, eq_ok_of_toOption hrun, eq_ok_of_toOption hscan,
    eq_ok_of_toOption hfragment, eq_ok_of_toOption hnew, hresult⟩

/-! ### The descriptors of a web application -/

/-- A successful run on the two descriptors of a web application has delivered both exactly when they
are different files. -/
theorem run_defaults_delivers_iff (webapp : Text)
    (h : run config reader tree artifacts (Target.defaults config webapp) = .ok (tree', totals)) :
    ∃ scanned, scan config reader artifacts = .ok scanned ∧
      (List.Forall₂ (Target.Delivered config scanned tree tree') (Target.defaults config webapp)
          totals.documents ↔
        tree.locate (config.webXmlPath webapp) ≠
          tree.locate (config.appengineWebXmlPath webapp)) := by
  obtain ⟨scanned, ds, hscan, htargets, -, hdelivered⟩ := delivered_of_run h
  obtain ⟨servlets, rest, rfl, hservlets, hrest⟩ := List.map_eq_cons_iff.mp htargets
  obtain ⟨properties, rest', rfl, hproperties, hrest'⟩ := List.map_eq_cons_iff.mp hrest
  obtain rfl := List.map_eq_nil_iff.mp hrest'
  -- the two fragments differ, so one file cannot hold both
  have hne : servlets.fragment ≠ properties.fragment := by
    rw [Draft.fragment, Draft.fragment, Document.Revision.fragment, Document.Revision.fragment,
      hservlets, hproperties]
    exact Document.Shape.render_servletMappings_ne _ _ _ _ _
  have hpaths : tree.locate servlets.target.path = tree.locate properties.target.path ↔
      tree.locate (config.webXmlPath webapp) = tree.locate (config.appengineWebXmlPath webapp) := by
    rw [hservlets, hproperties]
  refine ⟨scanned, hscan, hdelivered.trans ?_⟩
  constructor
  · intro hagree hplace
    exact hne (hagree servlets (by simp) properties (by simp) (hpaths.mpr hplace))
  · intro hdistinct d hd e he hplace
    simp only [List.mem_cons, List.not_mem_nil, or_false] at hd he
    rcases hd with rfl | rfl <;> rcases he with rfl | rfl
    · rfl
    · exact absurd (hpaths.mp hplace) hdistinct
    · exact absurd (hpaths.mp hplace.symm) hdistinct
    · rfl

end ServletRoutes.Generate
