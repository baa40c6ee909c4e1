import ServletRoutes.Proofs.Document.Guarding
import ServletRoutes.Proofs.Generate.Delivery
import ServletRoutes.Proofs.Generate.Stepwise
import ServletRoutes.Proofs.Route.Relisting

/-!
# `ServletRoutes.Proofs.Generate.Totals`: the totals are those of what was written

The totals of a run are counted on resolutions, while the documents are written
by loops of their own, over mappings in one kind of fragment and over URL
patterns in the other. `totals_of_perform` ties the two together. On the two
descriptors of a web application each total is the number of elements in a
fragment, found by their tags (`elementsIn?`, `propertiesIn?`); no value adds an
element or takes one away.

For any list of targets each total is added up over the targets that count for
it (`Counted`). Of the two descriptors one counts for each total, so no type
counts twice although a handler is a servlet too.
-/

set_option autoImplicit false

namespace ServletRoutes.Generate

open Document (elementsIn? propertiesIn? attributes twoValues?)
open Route (Mapping Policy Resolution)

variable {config : Config} {reader : FileTree → ArtifactReader} {artifacts : List Text}
  {tree tree' : FileTree} {targets : List Target} {totals : Summary} {scanned : Scan}
  {r : Resolution} {ms : List Mapping}

/-! ### Any targets -/

/-- The resolutions of the targets that count for a total. -/
def selected (counts : Tally → Bool) (resolved : List (Target × Resolution)) : List Resolution :=
  (resolved.filter fun p => counts p.1.tally).map (·.2)

/-- The totals are added up over the targets that count for them. -/
structure Counted (resolved : List (Target × Resolution)) (totals : Summary) : Prop where
  mappings : totals.mappingsGenerated =
    total Resolution.patternCount (selected Tally.mappings resolved)
  skipped : totals.skipped = total (·.skipped.length) (selected Tally.skipped resolved)
  elevated : totals.elevated =
    total Resolution.elevatedPatternCount (selected Tally.elevated resolved)
  documents : totals.documents.map (·.mappings) = resolved.map (·.2.mappings.length)

/-- A total of drafts is added up over their targets. -/
theorem tallied_eq (counts : Tally → Bool) (number : Resolution → Nat) (ds : List Draft) :
    tallied counts number ds =
      total number (selected counts (ds.map fun d => (d.target, d.resolution))) := by
  rw [tallied, selected, List.filter_map, List.map_map, total, total, List.map_map]
  rfl

/-- What a run makes of a target: the types below its base are resolved, and the fragment is rendered
from their mappings. -/
structure Made (config : Config) (scanned : Scan) (tree : FileTree) (target : Target)
    (resolution : Resolution) : Prop where
  resolved : config.routePolicy.resolve scanned.store (scanned.index.subtypesOf target.baseType) =
    .ok resolution
  rendered : ∃ ending,
    target.fragment config scanned tree = .ok (target.shape.render resolution.mappings ending)

/-- A successful run makes something of every target, and counts it. -/
theorem counted_of_perform
    (h : (perform config reader artifacts targets).on tree = (.ok totals, tree')) :
    ∃ scanned resolved, scan config (reader tree) artifacts = .ok scanned ∧
      resolved.map (·.1) = targets ∧ (∀ p ∈ resolved, Made config scanned tree p.1 p.2) ∧
      Counted resolved totals := by
  obtain ⟨scanned, ds, hscan, rfl, hds, -, rfl⟩ := drafts_of_run (run_of_perform h)
  refine ⟨scanned, ds.map fun d => (d.target, d.resolution), hscan, by simp, ?_, ?_⟩
  · intro p hp
    obtain ⟨d, hd, rfl⟩ := List.mem_map.mp hp
    obtain ⟨hfrom, report, hreport, hresolution⟩ := hds d hd
    constructor
    · rw [← hresolution]
      exact resolve_of_resolveTarget hreport
    · exact ⟨.detect d.old, fragment_of_draft hfrom ⟨report, hreport, hresolution⟩⟩
  · exact {
      mappings := tallied_eq Tally.mappings Resolution.patternCount ds
      skipped := tallied_eq Tally.skipped (fun r => r.skipped.length) ds
      elevated := tallied_eq Tally.elevated Resolution.elevatedPatternCount ds
      documents := by simp [summary, Draft.report] }

/-! ### The two descriptors -/

/-- The type that a servlet with this content declares. -/
def declaredType? (content : Text) : Option Text :=
  (twoValues? "servlet-name" "servlet-class" content).map (·.2)

/-- The types that the servlets in a text declare. -/
def declaredIn? (t : Text) : Option (List Text) :=
  (elementsIn? "servlet" t).bind (·.mapM declaredType?)

/-- The property leads to one of the elevated mappings. -/
def LeadsToElevated (ms : List Mapping) (property : Text) : Prop :=
  ∃ m ∈ ms, m.elevated = true ∧ (attributes property).lookup "value".toList = some m.typeName

instance {property : Text} : Decidable (LeadsToElevated ms property) :=
  inferInstanceAs (Decidable (∃ m ∈ ms, _))

/-- The totals are told by the fragments for the two descriptors. -/
structure ToldBy (config : Config) (scanned : Scan) (handlers : Resolution) (web app : Text)
    (totals : Summary) : Prop where
  /-- A route for each URL pattern. -/
  mappings : (elementsIn? "servlet-mapping" web).map List.length = some totals.mappingsGenerated
  /-- A servlet for each declared type. -/
  servlets : (elementsIn? "servlet" web).map List.length = totals.documents[0]?.map (·.mappings)
  /-- The skipped types are known and not excluded, and no servlet declares them. -/
  skipped : ∃ declared, declaredIn? web = some declared ∧
    totals.skipped = ((scanned.index.subtypesOf config.servletBase).toList.filter fun name =>
      name ∉ config.excludeClasses ∧ name ∉ declared).length
  /-- A property for each URL pattern of a handler. -/
  properties : (propertiesIn? app).map List.length = some handlers.patternCount
  /-- The properties that lead to elevated handlers. -/
  elevated : ∃ properties, propertiesIn? app = some properties ∧
    totals.elevated = properties.countP fun property => LeadsToElevated handlers.mappings property

/-- The servlets of a fragment declare the types of the mappings. -/
theorem declaredIn?_render (constraints : Bool) (ms : List Mapping) (ending : Document.LineEnding) :
    declaredIn? ((Document.Shape.servletMappings constraints).render ms ending) =
      some (ms.map (·.typeName)) := by
  have hread (m : Mapping) : declaredType? (Document.servletContent m) = some m.typeName := by
    rw [declaredType?, Document.servletContent, Document.twoValues?_elements (by decide) (by decide)]
    rfl
  rw [declaredIn?, Document.elementsIn?_servlets, Option.bind_some, Document.mapM_map hread]

/-- One element for each URL pattern makes as many as there are patterns. -/
theorem length_patterns {α : Type} (f : Mapping → Text → α) (r : Resolution) :
    (r.mappings.flatMap fun m => m.patterns.map (f m)).length = r.patternCount := by
  rw [List.length_flatMap]
  simp only [List.length_map]
  rfl

/-- A property leads to its type, which is elevated exactly when its mapping is. -/
theorem leadsToElevated_iff (hnodup : (ms.map (·.typeName)).Nodup) {m : Mapping} (hm : m ∈ ms)
    (pattern : Text) :
    LeadsToElevated ms (Document.propertyContent m pattern) ↔ m.elevated = true := by
  have hvalue : (attributes (Document.propertyContent m pattern)).lookup "value".toList =
      some m.typeName := by
    rw [Document.attributes_propertyContent]
    rfl
  simp only [LeadsToElevated, hvalue, Option.some.injEq]
  constructor
  · rintro ⟨m', hm', helevated, htype⟩
    -- no other mapping has this type
    obtain rfl : m = m' := List.inj_on_of_nodup_map hnodup hm hm' htype
    exact helevated
  · intro helevated
    exact ⟨m, hm, helevated, rfl⟩

/-- Where the elements of one mapping are all counted or none, as many are counted as there are patterns
of the mappings that count. -/
theorem countP_patterns {f : Mapping → Text → Text} {p : Text → Bool} {counts : Mapping → Bool}
    (h : ∀ m ∈ ms, ∀ pattern, p (f m pattern) = counts m) :
    (ms.flatMap fun m => m.patterns.map (f m)).countP p =
      total (fun m => m.patterns.length) (ms.filter counts) := by
  induction ms with
  | nil => rfl
  | cons m ms ih =>
    have hrest := ih fun m' hm' => h m' (List.mem_cons_of_mem m hm')
    have hfirst : (m.patterns.map (f m)).countP p = if counts m then m.patterns.length else 0 := by
      rw [List.countP_map]
      have hsame (pattern : Text) : p (f m pattern) = counts m := h m List.mem_cons_self pattern
      split
      next hcounts => exact List.countP_eq_length.mpr fun pattern _ => (hsame pattern).trans hcounts
      next hcounts =>
        refine List.countP_eq_zero.mpr fun pattern _ hp => hcounts ?_
        exact (hsame pattern).symm.trans hp
    rw [List.flatMap_cons, List.countP_append, hrest, hfirst, List.filter_cons]
    split <;> simp

/-- The types of a resolution, mapped or skipped. -/
def typesOf (r : Resolution) : List Text := r.mappings.map (·.typeName) ++ r.skipped

/-- A type stands once in a resolution. -/
theorem nodup_typesOf {policy : Policy} {store : Annotations.Store} {candidates : NameSet}
    (h : policy.resolve store candidates = .ok r) : (typesOf r).Nodup :=
  (Policy.parts_of_resolve h).perm.nodup_iff.mpr (policy.considered candidates).nodup_toList

/-- Of the two descriptors one counts for each total. -/
theorem selected_defaults {webapp : Text} {servletTarget handlerTarget : Target}
    (h : Target.defaults config webapp = [servletTarget, handlerTarget])
    (servlets handlers : Resolution) :
    selected Tally.mappings [(servletTarget, servlets), (handlerTarget, handlers)] = [servlets] ∧
    selected Tally.skipped [(servletTarget, servlets), (handlerTarget, handlers)] = [servlets] ∧
    selected Tally.elevated [(servletTarget, servlets), (handlerTarget, handlers)] = [handlers] := by
  rw [Target.defaults, List.cons.injEq, List.cons.injEq] at h
  obtain ⟨rfl, rfl, -⟩ := h
  exact ⟨rfl, rfl, rfl⟩

/-- The totals of a run on the two descriptors are told by their fragments. -/
theorem toldBy_of_counted {webapp : Text} {servletTarget handlerTarget : Target}
    {servlets handlers : Resolution}
    (htargets : Target.defaults config webapp = [servletTarget, handlerTarget])
    (hservlets : Made config scanned tree servletTarget servlets)
    (hhandlers : Made config scanned tree handlerTarget handlers)
    (hcounted : Counted [(servletTarget, servlets), (handlerTarget, handlers)] totals) :
    ∃ web app, servletTarget.fragment config scanned tree = .ok web ∧
      handlerTarget.fragment config scanned tree = .ok app ∧
      ToldBy config scanned handlers web app totals := by
  obtain ⟨hmappings, hskipped, helevated⟩ := selected_defaults htargets servlets handlers
  rw [Target.defaults, List.cons.injEq, List.cons.injEq] at htargets
  obtain ⟨rfl, rfl, -⟩ := htargets
  obtain ⟨ending, hweb⟩ := hservlets.rendered
  obtain ⟨ending', happ⟩ := hhandlers.rendered
  have hdocuments := hcounted.documents
  have hnodup : (handlers.mappings.map (·.typeName)).Nodup :=
    (List.nodup_append.mp (nodup_typesOf hhandlers.resolved)).1
  refine ⟨_, _, hweb, happ, ?_⟩
  exact {
    mappings := by
      rw [Document.elementsIn?_routes, Option.map_some, length_patterns, hcounted.mappings, hmappings]
      rfl
    servlets := by
      rw [Document.elementsIn?_servlets, Option.map_some, List.length_map, ← List.getElem?_map,
        hdocuments]
      rfl
    skipped := by
      refine ⟨_, declaredIn?_render .., ?_⟩
      have hskips : totals.skipped = servlets.skipped.length := by
        rw [hcounted.skipped, hskipped]
        rfl
      -- the declared types are the mapped ones, so the filter leaves what was skipped
      rw [hskips, ← Policy.filter_skipped hservlets.resolved]
      simp only [Config.routePolicy, NameSet.mem_ofList]
    properties := by
      rw [Document.propertiesIn?_render, Option.map_some, length_patterns]
    elevated := by
      refine ⟨_, Document.propertiesIn?_render .., ?_⟩
      have hpatterns : totals.elevated = handlers.elevatedPatternCount := by
        rw [hcounted.elevated, helevated]
        rfl
      have hleads : ∀ m ∈ handlers.mappings, ∀ pattern,
          decide (LeadsToElevated handlers.mappings (Document.propertyContent m pattern)) =
            m.elevated := by
        intro m hm pattern
        rw [Bool.eq_iff_iff, decide_eq_true_iff]
        exact leadsToElevated_iff hnodup hm pattern
      rw [hpatterns, Resolution.elevatedPatternCount, countP_patterns hleads] }

/-- The totals of a run that succeeds. For any targets each total is added up over the targets that count
for it, from what each of them is resolved to. On the two descriptors of a web application the totals
are told by the fragments: they are numbers of routes, servlets, properties and undeclared types there.
For each of these totals one of the two descriptors counts, with every type once. -/
theorem totals_of_perform (config : Config) (reader : FileTree → ArtifactReader)
    (artifacts : List Text) (tree tree' : FileTree) :
    (∀ targets totals,
      (perform config reader artifacts targets).on tree = (.ok totals, tree') →
      ∃ scanned resolved, scan config (reader tree) artifacts = .ok scanned ∧
        resolved.map (·.1) = targets ∧ (∀ p ∈ resolved, Made config scanned tree p.1 p.2) ∧
        Counted resolved totals) ∧
    ∀ webapp totals,
      (perform config reader artifacts (Target.defaults config webapp)).on tree =
        (.ok totals, tree') →
      ∃ scanned servletTarget handlerTarget servlets handlers web app,
        scan config (reader tree) artifacts = .ok scanned ∧
        Target.defaults config webapp = [servletTarget, handlerTarget] ∧
        Made config scanned tree servletTarget servlets ∧
        Made config scanned tree handlerTarget handlers ∧
        servletTarget.fragment config scanned tree = .ok web ∧
        handlerTarget.fragment config scanned tree = .ok app ∧
        ToldBy config scanned handlers web app totals ∧
        ∀ counts ∈ [Tally.mappings, Tally.skipped, Tally.elevated], ∃ resolution,
          selected counts [(servletTarget, servlets), (handlerTarget, handlers)] = [resolution] ∧
          (typesOf resolution).Nodup := by
  refine ⟨fun targets totals h => counted_of_perform h, fun webapp totals h => ?_⟩
  obtain ⟨scanned, resolved, hscan, htargets, hmade, hcounted⟩ := counted_of_perform h
  -- there are two targets by default, which report one each
  obtain ⟨⟨servletTarget, servlets⟩, rest, rfl, hservletTarget, hrest⟩ :=
    List.map_eq_cons_iff.mp htargets
  obtain ⟨⟨handlerTarget, handlers⟩, rest', rfl, hhandlerTarget, hrest'⟩ :=
    List.map_eq_cons_iff.mp hrest
  obtain rfl := List.map_eq_nil_iff.mp hrest'
  have hservlets := hmade (servletTarget, servlets) (by simp)
  have hhandlers := hmade (handlerTarget, handlers) (by simp)
  obtain ⟨web, app, hweb, happ, htold⟩ :=
    toldBy_of_counted htargets.symm hservlets hhandlers hcounted
  obtain ⟨hmappings, hskipped, helevated⟩ := selected_defaults htargets.symm servlets handlers
  refine ⟨scanned, servletTarget, handlerTarget, servlets, handlers, web, app, hscan,
    htargets.symm, hservlets, hhandlers, hweb, happ, htold, fun counts hcounts => ?_⟩
  -- each number is that of one target only, where every type stands once
  simp only [List.mem_cons, List.not_mem_nil, or_false] at hcounts
  rcases hcounts with rfl | rfl | rfl
  · exact ⟨servlets, hmappings, nodup_typesOf hservlets.resolved⟩
  · exact ⟨servlets, hskipped, nodup_typesOf hservlets.resolved⟩
  · exact ⟨handlers, helevated, nodup_typesOf hhandlers.resolved⟩

/-- A configuration that reads the guarded handlers into two documents of the working directory. -/
def guardedConfig : Config :=
  { includeExclude := [], routeAnnotationType := ['R'], roleAnnotationType := ['G'],
    elevatedRole := "root".toList, handlerBase := ['B'], servletBase := ['B'],
    webXml := some "web.xml".toList, appengineWebXml := some "app.xml".toList }

/-- A reader of guarded handlers and of one, `S`, that has no route. -/
def unroutedReader : ArtifactReader where
  canRead _ := true
  read? path filter :=
    if path = ['S'] then some ⟨[⟨⟨path, [['B']]⟩, []⟩], 0, 0⟩
    else Route.guardedReader.read? path filter

/-- A run on three handlers, the first of which is listed twice. -/
def guardedRun : Except Fault Summary × FileTree :=
  (perform guardedConfig (fun _ => unroutedReader) [['A'], ['C'], ['S'], ['A']]
      (Target.defaults guardedConfig [])).on
    (twoDocuments "<web-app></web-app>".toList "</system-properties>".toList)

/-- Of the three handlers two have a route, one of them is elevated, and each is counted once. -/
theorem totals_of_perform_guarded :
    ∃ totals tree', guardedRun = (.ok totals, tree') ∧
      (totals.mappingsGenerated, totals.skipped, totals.elevated) = (2, 1, 1) ∧
      (∃ resolved, resolved.map (·.1) = Target.defaults guardedConfig [] ∧
        Counted resolved totals) ∧
      ∃ scanned handlers web app, ToldBy guardedConfig scanned handlers web app totals := by
  have hcounts : guardedRun.1.toOption.map (fun totals =>
      (totals.mappingsGenerated, totals.skipped, totals.elevated)) = some (2, 1, 1) := by
    decide +kernel
  cases h : guardedRun with
  | mk outcome tree' =>
    cases outcome with
    | error fault => simp [h, Except.toOption] at hcounts
    | ok totals =>
      obtain ⟨hany, hdefaults⟩ := totals_of_perform guardedConfig _ _ _ tree'
      obtain ⟨-, resolved, -, htargets, -, hcounted⟩ := hany _ totals h
      obtain ⟨scanned, -, -, -, handlers, web, app, -, -, -, -, -, -, htold, -⟩ :=
        hdefaults _ totals h
      exact ⟨totals, tree', rfl, by simpa [h, Except.toOption] using hcounts,
        ⟨resolved, htargets, hcounted⟩, scanned, handlers, web, app, htold⟩

end ServletRoutes.Generate
