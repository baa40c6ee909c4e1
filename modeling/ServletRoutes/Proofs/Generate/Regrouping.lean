import ServletRoutes.Generate.Run
import ServletRoutes.Proofs.Route.ArtifactOrder

/-!
# `ServletRoutes.Proofs.Generate.Regrouping`: records in other artifacts

What is generated hangs on the class records of a scan, and neither on the
artifacts they come from nor, but for the order of URL patterns, on their
order. `resolve_regrouped` says so for two scans of any artifacts with the
same records: the indexes and the counters agree, every key has the same
tokens, and all targets are resolved alike. In `resolve_regrouped_together`
the records of two artifacts are found in one, the other way round.
-/

set_option autoImplicit false

namespace ServletRoutes.Generate

open Route (Resolution)

variable {config : Config} {scanned scanned' : Scan}

/-- Two reports are the same but for the order of patterns. -/
structure TargetReport.Reordered (report report' : TargetReport) : Prop where
  baseType : report.baseType = report'.baseType
  document : report.document = report'.document
  resolution : report.resolution.Reordered report'.resolution

/-- A target is resolved alike over the same subtypes and a store with the same tokens. -/
theorem resolveTarget_reordered (hstore : scanned.store.Permuted scanned'.store)
    (hindex : ∀ base, scanned.index.subtypesOf base = scanned'.index.subtypesOf base)
    (target : Target) :
    Alike TargetReport.Reordered (resolveTarget config scanned target)
      (resolveTarget config scanned' target) := by
  have halike : Alike Resolution.Reordered
      (config.routePolicy.resolve scanned.store (scanned.index.subtypesOf target.baseType))
      (config.routePolicy.resolve scanned'.store (scanned.index.subtypesOf target.baseType)) :=
    Route.Policy.resolve_reordered hstore _
  rw [resolveTarget, resolveTarget, ← hindex]
  generalize config.routePolicy.resolve scanned.store _ = outcome,
    config.routePolicy.resolve scanned'.store _ = outcome' at halike
  cases halike with
  | fault fault => exact .fault _
  | result h => exact .result ⟨rfl, rfl, h⟩

/-- Targets are resolved alike, one after the other, and the first fault is the same. -/
theorem resolve_reordered (hstore : scanned.store.Permuted scanned'.store)
    (hindex : ∀ base, scanned.index.subtypesOf base = scanned'.index.subtypesOf base)
    (targets : List Target) :
    Alike (List.Forall₂ TargetReport.Reordered) (resolve config scanned targets)
      (resolve config scanned' targets) := by
  induction targets with
  | nil => exact .result .nil
  | cons target targets ih =>
    have hfirst : Alike TargetReport.Reordered (resolveTarget config scanned target)
        (resolveTarget config scanned' target) := resolveTarget_reordered hstore hindex target
    rw [resolve, resolve]
    generalize resolveTarget config scanned target = first,
      resolveTarget config scanned' target = first' at hfirst
    cases hfirst with
    | fault fault => exact .fault fault
    | result h => exact ih.map fun reports reports' hreports => .cons h hreports

/-- Two scans that find the same class records, each equally often, in whatever artifacts and in
whatever order, and that use the same scanners
* know equally many types, have tokens for equally many keys and count the same;
* find the same subtypes of every type;
* have for every key the same tokens up to their order;
* lead to the same fault, or for every target to the same mappings up to the order of their patterns
  and the same skipped types, and to the same numbers of patterns. -/
theorem resolve_regrouped (config : Config) (reader reader' : ArtifactReader)
    (options options' : ScanOptions) (artifacts artifacts' : List Text) (targets : List Target)
    (hscanners : options.scanners = options'.scanners)
    (hrecords : (Scan.records (artifacts.map (Scan.reading reader options.filter))).Perm
      (Scan.records (artifacts'.map (Scan.reading reader' options'.filter)))) :
    let scanned := Scan.run reader options artifacts
    let scanned' := Scan.run reader' options' artifacts'
    (scanned.index.size = scanned'.index.size ∧ scanned.store.size = scanned'.store.size ∧
      scanned.stats.classes = scanned'.stats.classes ∧
      scanned.stats.annotationValues = scanned'.stats.annotationValues) ∧
    (∀ base, scanned.index.subtypesOf base = scanned'.index.subtypesOf base) ∧
    (∀ key, (scanned.store.values key).Perm (scanned'.store.values key)) ∧
    Alike (List.Forall₂ fun report report' =>
        report.Reordered report' ∧
          report.resolution.patternCount = report'.resolution.patternCount ∧
          report.resolution.elevatedPatternCount = report'.resolution.elevatedPatternCount)
      (resolve config scanned targets) (resolve config scanned' targets) := by
  intro scanned scanned'
  have hscanned' : scanned' =
      Scan.ofReadings options.scanners (artifacts'.map (Scan.reading reader' options'.filter)) := by
    rw [hscanners]
    rfl
  -- the index depends on which records there are, the store on how often each comes
  have hindex : scanned.index.Agrees scanned'.index := by
    rw [hscanned']
    exact Scan.agrees_ofReadings fun record => hrecords.mem_iff
  have hstore : scanned.store.Permuted scanned'.store := by
    rw [hscanned']
    exact Scan.permuted_ofReadings hrecords
  refine ⟨⟨hindex.size_eq, hstore.size_eq, ?_, ?_⟩, hindex.subtypesOf_eq, hstore, ?_⟩
  · rw [hscanned']
    exact Scan.classes_ofReadings_perm hrecords
  · rw [hscanned']
    exact Scan.annotationValues_ofReadings_perm hrecords
  · have halike : Alike (List.Forall₂ TargetReport.Reordered) (resolve config scanned targets)
        (resolve config scanned' targets) := resolve_reordered hstore hindex.subtypesOf_eq targets
    exact halike.imp fun reports reports' h => h.imp fun report report' hreport =>
      ⟨hreport, hreport.resolution.patternCount_eq, hreport.resolution.elevatedPatternCount_eq⟩

/-! ### Two records -/

/-- A reader for which every artifact holds the handler twice, with a route each. -/
def togetherReader : ArtifactReader where
  canRead _ := true
  read? _ _ := some ⟨[Route.handlerAt ['y'], Route.handlerAt ['x']], 0, 0⟩

/-- The configuration with the policy for the handler. -/
def handlerConfig : Config := { includeExclude := [], routeAnnotationType := ['R'] }

/-- The target for the handler. -/
def handlerTarget : Target := ⟨['B'], "web.xml".toList, .webApp, .servletMappings false, {}⟩

/-- The report about the handler with routes in an order. -/
def handlerReport (routes : List Text) : TargetReport :=
  ⟨['B'], "web.xml".toList, ⟨[Route.handlerMapping routes], []⟩⟩

/-- The two records of two artifacts are found in one artifact the other way round. The handler gets
its two routes in the other order. -/
theorem resolve_regrouped_together :
    let scanned := Scan.run Route.handlerReader Route.scanAll [['x'], ['y']]
    let scanned' := Scan.run togetherReader Route.scanAll [['z']]
    (Scan.records ([['x'], ['y']].map (Scan.reading Route.handlerReader .acceptAll))).Perm
        (Scan.records ([['z']].map (Scan.reading togetherReader .acceptAll))) ∧
      scanned.store.size = scanned'.store.size ∧
      (scanned.store.values ⟨['A'], ['R']⟩).Perm (scanned'.store.values ⟨['A'], ['R']⟩) ∧
      resolve handlerConfig scanned [handlerTarget] = .ok [handlerReport [['x'], ['y']]] ∧
      resolve handlerConfig scanned' [handlerTarget] = .ok [handlerReport [['y'], ['x']]] := by
  intro scanned scanned'
  have hrecords :
      (Scan.records ([['x'], ['y']].map (Scan.reading Route.handlerReader .acceptAll))).Perm
        (Scan.records ([['z']].map (Scan.reading togetherReader .acceptAll))) :=
    .swap (Route.handlerAt ['y']) (Route.handlerAt ['x']) []
  obtain ⟨⟨-, hsize, -, -⟩, -, hvalues, -⟩ := resolve_regrouped handlerConfig Route.handlerReader
    togetherReader Route.scanAll Route.scanAll [['x'], ['y']] [['z']] [handlerTarget] rfl hrecords
  exact ⟨hrecords, hsize, hvalues _, eq_ok_of_toOption (by decide +kernel),
    eq_ok_of_toOption (by decide +kernel)⟩

end ServletRoutes.Generate
