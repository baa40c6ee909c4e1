import ServletRoutes.Proofs.Document.Rendering
import ServletRoutes.Proofs.Scan

/-!
# `ServletRoutes.Proofs.Route.ArtifactOrder`: artifacts in another order

A fragment lists types in name order, but the URL patterns of a type in the
order in which their tokens were recorded. Only a type whose routes come
from several artifacts can tell in which order these were scanned.
`fragment_reordered` says when it does: all orders of the artifacts give the
same fragment exactly when, for every mapped type and any two artifacts, the
routes from one of them begin like those from the other
(`withoutRepeats_append_comm_iff`). In `fragment_reordered_differs` a type
comes from two artifacts with a route each.
-/

set_option autoImplicit false

namespace ServletRoutes.Route

open Annotations (Store)
open Document (Shape LineEnding)

variable {policy : Policy} {ts us vs : List Text}

/-! ### First occurrences in any order -/

/-- What is left of a list depends on what is left of its parts. -/
theorem withoutRepeats_append_congr {ts' us' : List Text} (ht : withoutRepeats ts = withoutRepeats ts')
    (hu : withoutRepeats us = withoutRepeats us') :
    withoutRepeats (ts ++ us) = withoutRepeats (ts' ++ us') := by
  have hmem : ∀ u, u ∈ ts ↔ u ∈ ts' := by
    intro u
    rw [← mem_withoutRepeats, ht, mem_withoutRepeats]
  simp only [withoutRepeats_append, ht, hu, hmem]

/-- A list that begins like another one leaves what the other one leaves, in both orders. -/
theorem withoutRepeats_append_comm_of_begins (h : withoutRepeats ts <+: withoutRepeats us) :
    withoutRepeats (ts ++ us) = withoutRepeats (us ++ ts) := by
  have hsubset : ∀ t ∈ ts, t ∈ us :=
    fun t ht => mem_withoutRepeats.mp (h.subset (mem_withoutRepeats.mpr ht))
  obtain ⟨rest, hrest⟩ := h
  have hnodup := nodup_withoutRepeats us
  rw [← hrest] at hnodup
  have hnone : (withoutRepeats ts).filter (fun u => u ∉ ts) = [] := by
    simp [List.filter_eq_nil_iff, mem_withoutRepeats]
  have hall : rest.filter (fun u => u ∉ ts) = rest := by
    refine List.filter_eq_self.mpr fun u hu => decide_eq_true fun hmem => ?_
    exact List.disjoint_of_nodup_append hnodup (mem_withoutRepeats.mpr hmem) hu
  rw [withoutRepeats_append_of_subset hsubset, withoutRepeats_append, ← hrest,
    List.filter_append, hnone, hall, List.nil_append]

/-- Two lists leave the same in both orders exactly when one begins like the other. -/
theorem withoutRepeats_append_comm_iff :
    withoutRepeats (ts ++ us) = withoutRepeats (us ++ ts) ↔
      withoutRepeats ts <+: withoutRepeats us ∨ withoutRepeats us <+: withoutRepeats ts := by
  constructor
  · intro h
    -- both are beginnings of one list
    have hts : withoutRepeats ts <+: withoutRepeats (ts ++ us) := by
      rw [withoutRepeats_append]
      exact List.prefix_append _ _
    have hus : withoutRepeats us <+: withoutRepeats (ts ++ us) := by
      rw [h, withoutRepeats_append]
      exact List.prefix_append _ _
    exact List.prefix_or_prefix_of_prefix hts hus
  · rintro (h | h)
    · exact withoutRepeats_append_comm_of_begins h
    · exact (withoutRepeats_append_comm_of_begins h).symm

/-- Lists that are put together in any order leave the same exactly when any two of them do. -/
theorem withoutRepeats_flatMap_perm_iff {α : Type} [DecidableEq α] (tokens : α → List Text)
    (as : List α) :
    (∀ bs, as.Perm bs → withoutRepeats (as.flatMap tokens) = withoutRepeats (bs.flatMap tokens)) ↔
      ∀ a ∈ as, ∀ b ∈ as,
        withoutRepeats (tokens a ++ tokens b) = withoutRepeats (tokens b ++ tokens a) := by
  constructor
  · intro hall a ha b hb
    by_cases hab : a = b
    · rw [hab]
    · -- both orders of the two lists are begun by orders of all of them
      have hrest : as.Perm (a :: b :: (as.erase a).erase b) :=
        (List.perm_cons_erase ha).trans
          ((List.perm_cons_erase ((List.mem_erase_of_ne (Ne.symm hab)).mpr hb)).cons a)
      have heq := (hall _ hrest).symm.trans (hall _ (hrest.trans (.swap b a _)))
      simp only [List.flatMap_cons, ← List.append_assoc] at heq
      rw [withoutRepeats_append (tokens a ++ tokens b), withoutRepeats_append (tokens b ++ tokens a)]
        at heq
      exact List.append_inj_left heq (withoutRepeats_perm List.perm_append_comm).length_eq
  · intro hcomm bs hperm
    -- any order is reached by exchanging neighbours
    induction hperm with
    | nil => rfl
    | cons a _ ih =>
      rw [List.flatMap_cons, List.flatMap_cons]
      refine withoutRepeats_append_congr rfl (ih fun c hc d hd => ?_)
      exact hcomm c (List.mem_cons_of_mem a hc) d (List.mem_cons_of_mem a hd)
    | swap a b rest =>
      simp only [List.flatMap_cons, ← List.append_assoc]
      exact withoutRepeats_append_congr (hcomm b (by simp) a (by simp)) rfl
    | trans hfirst _ ih ih' =>
      refine (ih hcomm).trans (ih' fun a ha b hb => ?_)
      exact hcomm a (hfirst.mem_iff.mpr ha) b (hfirst.mem_iff.mpr hb)

/-! ### Fragments -/

/-- The routes below a base, over a scan of the artifacts. -/
def Policy.resolveBelow (policy : Policy) (base : Text) (reader : ArtifactReader)
    (options : ScanOptions) (artifacts : List Text) : Except SegmentMissing Resolution :=
  let scan := Scan.run reader options artifacts
  policy.resolve scan.store (scan.index.subtypesOf base)

/-- The explicit routes that an artifact has for a type. -/
def Policy.routesIn (policy : Policy) (reader : ArtifactReader) (options : ScanOptions)
    (typeName artifact : Text) : List Text :=
  policy.explicitRoutes (Scan.run reader options [artifact]).store typeName

/-- The fragment of a resolution, or the fault in its place. -/
def fragmentOf (shape : Shape) (ending : LineEnding) (outcome : Except SegmentMissing Resolution) :
    Except SegmentMissing Text :=
  outcome.map fun r => shape.render r.mappings ending

/-- Resolutions that differ at most in the order of patterns have the same fragment only if they are
equal. -/
theorem fragmentOf_eq_iff {outcome outcome' : Except SegmentMissing Resolution}
    (h : Alike Resolution.Reordered outcome outcome') (shape : Shape) (ending : LineEnding) :
    fragmentOf shape ending outcome = fragmentOf shape ending outcome' ↔ outcome = outcome' := by
  cases h with
  | fault fault => simp
  | @result r r' hr =>
    simp only [fragmentOf, Except.map, Except.ok.injEq, Shape.render_eq_iff hr.mappings]
    exact ⟨hr.eq_of_mappings, congrArg Resolution.mappings⟩

/-- For any list of artifacts
* every other order of them gives the same fault, or the same types with the same patterns up to
  their order, and the same fragment only if that order is the same too;
* all orders of them give the same fragment exactly when, for every mapped type, the routes from one
  of any two artifacts begin like those from the other. -/
theorem fragment_reordered (policy : Policy) (base : Text) (reader : ArtifactReader)
    (options : ScanOptions) (shape : Shape) (ending : LineEnding) (artifacts : List Text) :
    let resolved := policy.resolveBelow base reader options
    let fragment := fun artifacts => fragmentOf shape ending (resolved artifacts)
    (∀ artifacts', artifacts.Perm artifacts' →
      Alike Resolution.Reordered (resolved artifacts) (resolved artifacts') ∧
        (fragment artifacts = fragment artifacts' ↔ resolved artifacts = resolved artifacts')) ∧
    ((∀ artifacts', artifacts.Perm artifacts' → fragment artifacts = fragment artifacts') ↔
      ∀ r, resolved artifacts = .ok r → ∀ m ∈ r.mappings, ∀ a ∈ artifacts, ∀ b ∈ artifacts,
        let routes := fun artifact =>
          withoutRepeats (policy.routesIn reader options m.typeName artifact)
        routes a <+: routes b ∨ routes b <+: routes a) := by
  intro resolved fragment
  -- another order permutes the values of each key and leaves the subtypes
  have hpermuted {artifacts' : List Text} (hperm : artifacts.Perm artifacts') :
      (Scan.run reader options artifacts).store.Permuted
        (Scan.run reader options artifacts').store :=
    Scan.permuted_ofReadings (Scan.records_perm (hperm.map _))
  have hsubtypes {artifacts' : List Text} (hperm : artifacts.Perm artifacts') :
      (Scan.run reader options artifacts').index.subtypesOf base =
        (Scan.run reader options artifacts).index.subtypesOf base :=
    (Scan.agrees_ofReadings fun _ =>
      (Scan.records_perm (hperm.map _)).mem_iff.symm).subtypesOf_eq base
  have halike {artifacts' : List Text} (hperm : artifacts.Perm artifacts') :
      Alike Resolution.Reordered (resolved artifacts) (resolved artifacts') := by
    simp only [resolved, Policy.resolveBelow, hsubtypes hperm]
    exact Policy.resolve_reordered (hpermuted hperm) _
  have hfragment {artifacts' : List Text} (hperm : artifacts.Perm artifacts') :
      fragment artifacts = fragment artifacts' ↔ resolved artifacts = resolved artifacts' :=
    fragmentOf_eq_iff (halike hperm) shape ending
  have hroutes (artifacts : List Text) (name : Text) :
      policy.explicitRoutes (Scan.run reader options artifacts).store name =
        artifacts.flatMap (policy.routesIn reader options name) :=
    Scan.values_run_eq_flatMap reader options artifacts _
  refine ⟨fun artifacts' hperm => ⟨halike hperm, hfragment hperm⟩, ?_⟩
  -- the fragment tells the order of patterns, so that of routes: first those of all artifacts, then
  -- of two at a time
  calc (∀ artifacts', artifacts.Perm artifacts' → fragment artifacts = fragment artifacts')
    _ ↔ ∀ artifacts', artifacts.Perm artifacts' → ∀ r, resolved artifacts = .ok r →
          ∀ m ∈ r.mappings,
            withoutRepeats (artifacts.flatMap (policy.routesIn reader options m.typeName)) =
              withoutRepeats (artifacts'.flatMap (policy.routesIn reader options m.typeName)) := by
        refine forall_congr' fun artifacts' => forall_congr' fun hperm => ?_
        simp only [hfragment hperm, resolved, Policy.resolveBelow, hsubtypes hperm, ← hroutes]
        exact Policy.resolve_eq_iff (hpermuted hperm) _
    _ ↔ ∀ r, resolved artifacts = .ok r → ∀ m ∈ r.mappings, ∀ artifacts',
          artifacts.Perm artifacts' →
            withoutRepeats (artifacts.flatMap (policy.routesIn reader options m.typeName)) =
              withoutRepeats (artifacts'.flatMap (policy.routesIn reader options m.typeName)) :=
        ⟨fun h r hr m hm artifacts' hperm => h artifacts' hperm r hr m hm,
          fun h artifacts' hperm r hr m hm => h r hr m hm artifacts' hperm⟩
    _ ↔ _ := by
        simp only [withoutRepeats_flatMap_perm_iff, withoutRepeats_append_comm_iff]

/-! ### A type in two artifacts -/

/-- The handler with a route of its own. -/
def handlerAt (route : Text) : ClassRecord :=
  ⟨⟨['A'], [['B']]⟩, [⟨['R'], [("value".toList, .text route)]⟩]⟩

/-- A reader for which every artifact holds the handler, with the name of the artifact for its
route. -/
def handlerReader : ArtifactReader where
  canRead _ := true
  read? path _ := some ⟨[handlerAt path], 0, 0⟩

/-- The policy that reads the routes of the handler. -/
def handlerPolicy : Policy := { routeAnnotationType := ['R'] }

/-- The scan that reads everything. -/
def scanAll : ScanOptions := ⟨.acceptAll, [.subtypes, .annotations], false, none⟩

/-- The handler with routes in an order. -/
def handlerMapping (routes : List Text) : Mapping := ⟨['A'], ['A'], routes, false⟩

/-- The two orders of the artifacts give the same routes in two orders, so there is an order that
gives another fragment. -/
theorem fragment_reordered_swap :
    [['x'], ['y']].Perm [['y'], ['x']] ∧
      Alike Resolution.Reordered
        (handlerPolicy.resolveBelow ['B'] handlerReader scanAll [['x'], ['y']])
        (handlerPolicy.resolveBelow ['B'] handlerReader scanAll [['y'], ['x']]) ∧
      handlerPolicy.resolveBelow ['B'] handlerReader scanAll [['x'], ['y']] =
        .ok ⟨[handlerMapping [['x'], ['y']]], []⟩ ∧
      ¬ ∀ artifacts', [['x'], ['y']].Perm artifacts' →
        fragmentOf .systemProperties .lf
            (handlerPolicy.resolveBelow ['B'] handlerReader scanAll [['x'], ['y']]) =
          fragmentOf .systemProperties .lf
            (handlerPolicy.resolveBelow ['B'] handlerReader scanAll artifacts') := by
  have hperm : [['x'], ['y']].Perm [['y'], ['x']] := .swap _ _ _
  have hresolved : handlerPolicy.resolveBelow ['B'] handlerReader scanAll [['x'], ['y']] =
      .ok ⟨[handlerMapping [['x'], ['y']]], []⟩ := eq_ok_of_toOption (by decide +kernel)
  obtain ⟨horders, hall⟩ := fragment_reordered handlerPolicy ['B'] handlerReader scanAll
    .systemProperties .lf [['x'], ['y']]
  refine ⟨hperm, (horders _ hperm).1, hresolved, fun hsame => ?_⟩
  -- neither of the two routes begins like the other
  have hprefix := hall.mp hsame _ hresolved _ List.mem_cons_self ['x'] (by simp) ['y'] (by simp)
  exact absurd hprefix (by decide +kernel)

/-- Two artifacts that hold the same type with a route each give another fragment in the other
order. -/
theorem fragment_reordered_differs :
    [['x'], ['y']].Perm [['y'], ['x']] ∧
      handlerPolicy.resolveBelow ['B'] handlerReader scanAll [['x'], ['y']] =
        .ok ⟨[handlerMapping [['x'], ['y']]], []⟩ ∧
      handlerPolicy.resolveBelow ['B'] handlerReader scanAll [['y'], ['x']] =
        .ok ⟨[handlerMapping [['y'], ['x']]], []⟩ ∧
      Shape.systemProperties.render [handlerMapping [['x'], ['y']]] .lf ≠
        Shape.systemProperties.render [handlerMapping [['y'], ['x']]] .lf :=
  ⟨.swap _ _ _, eq_ok_of_toOption (by decide +kernel), eq_ok_of_toOption (by decide +kernel),
    by decide +kernel⟩

end ServletRoutes.Route
