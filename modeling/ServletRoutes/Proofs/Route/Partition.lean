import Mathlib.Data.List.Perm.Basic
import ServletRoutes.Proofs.Route.Resolution
import ServletRoutes.Proofs.Text.NameSet
import ServletRoutes.Proofs.Text.Occurrence
import ServletRoutes.Proofs.Text.Order

/-!
# `ServletRoutes.Proofs.Route.Partition`: what becomes of every candidate

A candidate that is not excluded is mapped, is skipped or is misplaced: it
has no explicit routes, and its name holds the marker, but not as a segment.
`Policy.resolveNames_parts` says what a list of names gives: the fault of the
first misplaced name, or the list parted in two.

`Policy.resolve_parts` states it for sets of candidates. The fault is that of
the smallest misplaced candidate in byte order; otherwise the mapped and the
skipped types are the candidates, each once and in order; `Policy.Describes`
says what a mapping tells about its type; and nothing depends on excluded
types or on what the store holds for them.
-/

set_option autoImplicit false

namespace ServletRoutes.Route

open Annotations (Store)

variable {policy : Policy} {store store' : Store} {name : Text} {names ts us : List Text}

/-! ### First occurrences -/

/-- A list of texts with later repetitions removed: the same texts, in the order in which they first
occur. -/
structure FirstOccurrences (ts us : List Text) : Prop where
  mem_iff : ∀ t, t ∈ us ↔ t ∈ ts
  order : us.Pairwise fun t u => ts.idxOf t < ts.idxOf u

/-- Without repeats a list has its first occurrences. -/
theorem firstOccurrences_withoutRepeats (ts : List Text) : FirstOccurrences ts (withoutRepeats ts) := by
  refine ⟨fun t => mem_withoutRepeats, ?_⟩
  induction ts with
  | nil => exact .nil
  | cons t ts ih =>
    rw [withoutRepeats, List.pairwise_cons]
    constructor
    · intro u hu
      have hne : u ≠ t := of_decide_eq_true (List.mem_filter.mp hu).2
      rw [List.idxOf_cons_self, List.idxOf_cons_ne _ hne.symm]
      omega
    · refine (ih.filter _).imp_of_mem fun {u v} hu hv huv => ?_
      have hne : u ≠ t := of_decide_eq_true (List.mem_filter.mp hu).2
      have hne' : v ≠ t := of_decide_eq_true (List.mem_filter.mp hv).2
      rw [List.idxOf_cons_ne _ hne.symm, List.idxOf_cons_ne _ hne'.symm]
      omega

namespace FirstOccurrences

/-- First occurrences are distinct. -/
theorem nodup (h : FirstOccurrences ts us) : us.Nodup :=
  h.order.imp fun hlt heq => by rw [heq] at hlt; exact Nat.lt_irrefl _ hlt

/-- A list with something in it has a first occurrence. -/
theorem ne_nil (h : FirstOccurrences ts us) (hne : ts ≠ []) : us ≠ [] := by
  obtain ⟨t, ht⟩ := List.exists_mem_of_ne_nil ts hne
  exact List.ne_nil_of_mem ((h.mem_iff t).mpr ht)

end FirstOccurrences

namespace Policy

/-! ### The three kinds of candidates -/

/-- A type without explicit routes whose name holds the marker, but not as a segment of the name that
is read with slashes. -/
structure Misplaced (policy : Policy) (store : Store) (name : Text) : Prop where
  unrouted : policy.explicitRoutes store name = []
  marked : policy.markerSegment <:+: name
  unsegmented : ¬ policy.markerSegment ++ ['/'] <:+: Text.replace '.' '/' name

/-- A type without explicit routes whose name does not hold the marker. -/
structure Unmarked (policy : Policy) (store : Store) (name : Text) : Prop where
  unrouted : policy.explicitRoutes store name = []
  unmarked : ¬ policy.markerSegment <:+: name

/-- The URL patterns of a type: its explicit routes with later repetitions removed, or else the route
made of what follows the first marker segment. -/
inductive Routed (policy : Policy) (store : Store) (name : Text) : List Text → Prop
  | explicit {ps : List Text} (hrouted : policy.explicitRoutes store name ≠ [])
    (hps : FirstOccurrences (policy.explicitRoutes store name) ps) : Routed policy store name ps
  | conventional (front rest : Text) (hunrouted : policy.explicitRoutes store name = [])
    (hmarked : policy.markerSegment <:+: name)
    (hsegment : Text.replace '.' '/' name = front ++ (policy.markerSegment ++ ['/']) ++ rest)
    (hfirst : ¬ policy.markerSegment ++ ['/'] <:+: front ++ policy.markerSegment) :
    Routed policy store name [policy.routeRoot ++ rest]

/-- A type that is routed has a pattern. -/
theorem Routed.ne_nil {ps : List Text} (h : policy.Routed store name ps) : ps ≠ [] := by
  cases h with
  | explicit hrouted hps => exact hps.ne_nil hrouted
  | conventional => exact List.cons_ne_nil _ _

/-- The patterns of a type are distinct. -/
theorem Routed.nodup {ps : List Text} (h : policy.Routed store name ps) : ps.Nodup := by
  cases h with
  | explicit hrouted hps => exact hps.nodup
  | conventional => exact List.nodup_singleton _

instance : Decidable (policy.Misplaced store name) :=
  decidable_of_iff
    (policy.explicitRoutes store name = [] ∧ Text.contains policy.markerSegment name = true ∧
      Text.contains (policy.markerSegment ++ ['/']) (Text.replace '.' '/' name) = false)
    (by
      rw [Text.contains_iff, Text.contains_eq_false_iff]
      exact ⟨fun h => ⟨h.1, h.2.1, h.2.2⟩, fun h => ⟨h.1, h.2, h.3⟩⟩)

instance : Decidable (policy.Unmarked store name) :=
  decidable_of_iff
    (policy.explicitRoutes store name = [] ∧ Text.contains policy.markerSegment name = false)
    (by rw [Text.contains_eq_false_iff]; exact ⟨fun h => ⟨h.1, h.2⟩, fun h => ⟨h.1, h.2⟩⟩)

/-- Without explicit routes a name that holds the marker has its conventional route or none. -/
theorem patterns_of_marked (hunrouted : policy.explicitRoutes store name = [])
    (hmarked : policy.markerSegment <:+: name) :
    policy.patterns store name = (policy.conventionalRoute name).map fun route => [route] := by
  simp [patterns, hunrouted, Text.contains_iff.mpr hmarked]

/-- A misplaced type is a fault that names it. -/
theorem patterns_of_misplaced (h : policy.Misplaced store name) :
    policy.patterns store name = .error ⟨name, policy.markerSegment⟩ := by
  rw [patterns_of_marked h.unrouted h.marked, conventionalRoute,
    Text.cut?_eq_none_iff.mpr h.unsegmented]
  rfl

/-- A type that is not marked has no patterns. -/
theorem patterns_of_unmarked (h : policy.Unmarked store name) :
    policy.patterns store name = .ok [] := by
  simp [patterns, h.unrouted, Text.contains_eq_false_iff.mpr h.unmarked]

/-- Every other type is routed. -/
theorem exists_routed (hplaced : ¬ policy.Misplaced store name)
    (hmarked : ¬ policy.Unmarked store name) :
    ∃ ps, policy.Routed store name ps ∧ policy.patterns store name = .ok ps := by
  by_cases hunrouted : policy.explicitRoutes store name = []
  · have hholds : policy.markerSegment <:+: name :=
      Classical.byContradiction fun hnot => hmarked ⟨hunrouted, hnot⟩
    cases hcut : Text.cut? (policy.markerSegment ++ ['/']) (Text.replace '.' '/' name) with
    | none => exact absurd ⟨hunrouted, hholds, Text.cut?_eq_none_iff.mp hcut⟩ hplaced
    | some parts =>
      obtain ⟨front, rest⟩ := parts
      obtain ⟨hsegment, hfirst⟩ := (Text.cut?_eq_some_iff (by simp)).mp hcut
      rw [List.dropLast_concat] at hfirst
      refine ⟨_, .conventional front rest hunrouted hholds hsegment hfirst, ?_⟩
      rw [patterns_of_marked hunrouted hholds, conventionalRoute, hcut]
      rfl
  · refine ⟨_, .explicit hunrouted (firstOccurrences_withoutRepeats _), ?_⟩
    simp [patterns, hunrouted]

/-! ### What a mapping tells -/

/-- A mapping tells the routes of its type, each once, and whether the type asks for the elevated role
and for no other one. -/
structure Describes (policy : Policy) (store : Store) (m : Mapping) : Prop where
  servletName : m.servletName = servletNameOf m.typeName
  routed : policy.Routed store m.typeName m.patterns
  patterns_ne_nil : m.patterns ≠ []
  patterns_nodup : m.patterns.Nodup
  elevated : m.elevated = true ↔
    store.values ⟨m.typeName, policy.roleAnnotationType⟩ = [policy.elevatedRole]

/-- The mapping of a routed type describes it. -/
theorem describes_mapping {ps : List Text} (h : policy.Routed store name ps) :
    policy.Describes store (policy.mapping store name ps) where
  servletName := rfl
  routed := h
  patterns_ne_nil := h.ne_nil
  patterns_nodup := h.nodup
  elevated := decide_eq_true_iff

/-! ### Lists of names -/

/-- A resolution parts names into the unmarked ones, which it skips, and the others, which it maps, both
in the order of the names. -/
structure Parts (policy : Policy) (store : Store) (names : List Text) (r : Resolution) : Prop where
  mapped : r.mappings.map (·.typeName) = names.filter fun name => ¬ policy.Unmarked store name
  skipped : r.skipped = names.filter fun name => policy.Unmarked store name
  describes : ∀ m ∈ r.mappings, policy.Describes store m

/-- What one routed name adds to a resolution of the names after it. -/
theorem Parts.map {r : Resolution} {ps : List Text} (h : policy.Parts store names r)
    (hmarked : ¬ policy.Unmarked store name) (hps : policy.Routed store name ps) :
    policy.Parts store (name :: names)
      { r with mappings := policy.mapping store name ps :: r.mappings } where
  mapped := by
    rw [List.map_cons, h.mapped, List.filter_cons_of_pos (by simpa using hmarked)]
    rfl
  skipped := by rw [List.filter_cons_of_neg (by simpa using hmarked), h.skipped]
  describes := by
    intro m hm
    rcases List.mem_cons.mp hm with rfl | hm
    · exact describes_mapping hps
    · exact h.describes m hm

/-- What one unmarked name adds to a resolution of the names after it. -/
theorem Parts.skip {r : Resolution} (h : policy.Parts store names r)
    (hunmarked : policy.Unmarked store name) :
    policy.Parts store (name :: names) { r with skipped := name :: r.skipped } where
  mapped := by rw [List.filter_cons_of_neg (by simpa using hunmarked), h.mapped]
  skipped := by rw [List.filter_cons_of_pos (by simpa using hunmarked), h.skipped]
  describes := h.describes

/-- Nothing is lost, and nothing stands twice. -/
theorem Parts.perm {r : Resolution} (h : policy.Parts store names r) :
    (r.mappings.map (·.typeName) ++ r.skipped).Perm names := by
  rw [h.mapped, h.skipped]
  refine List.perm_append_comm.trans ?_
  simpa using List.filter_append_perm (fun name => decide (policy.Unmarked store name)) names

/-- A type is not looked at when it is excluded. -/
theorem resolveNames_filter (policy : Policy) (store : Store) (names : List Text) :
    policy.resolveNames store (names.filter fun name => name ∉ policy.excluded) =
      policy.resolveNames store names := by
  induction names with
  | nil => rfl
  | cons name names ih =>
    by_cases hexcluded : name ∈ policy.excluded
    · rw [List.filter_cons_of_neg (by simpa using hexcluded), ih, resolveNames, if_pos hexcluded]
    · rw [List.filter_cons_of_pos (by simpa using hexcluded), resolveNames, resolveNames, ih]

/-- A name with a place leaves the fault of a later one alone. -/
theorem resolveNames_cons_error {fault : SegmentMissing} (hincluded : name ∉ policy.excluded)
    (hplaced : ¬ policy.Misplaced store name)
    (hfault : policy.resolveNames store names = .error fault) :
    policy.resolveNames store (name :: names) = .error fault := by
  rw [resolveNames, if_neg hincluded, hfault]
  by_cases hunmarked : policy.Unmarked store name
  · rw [patterns_of_unmarked hunmarked]
    rfl
  · obtain ⟨ps, -, hpatterns⟩ := exists_routed hplaced hunmarked
    rw [hpatterns]
    rfl

/-- A name with a place joins one of the two parts. -/
theorem resolveNames_cons_parts {r : Resolution} (hincluded : name ∉ policy.excluded)
    (hplaced : ¬ policy.Misplaced store name) (hr : policy.resolveNames store names = .ok r)
    (hparts : policy.Parts store names r) :
    ∃ r', policy.resolveNames store (name :: names) = .ok r' ∧
      policy.Parts store (name :: names) r' := by
  rw [resolveNames, if_neg hincluded, hr]
  by_cases hunmarked : policy.Unmarked store name
  · refine ⟨_, ?_, hparts.skip hunmarked⟩
    rw [patterns_of_unmarked hunmarked]
    rfl
  · obtain ⟨ps, hps, hpatterns⟩ := exists_routed hplaced hunmarked
    refine ⟨_, ?_, hparts.map hunmarked hps⟩
    rw [hpatterns]
    simp [Except.map, hps.ne_nil]

/-- The first misplaced name decides; without one the names are parted. -/
theorem resolveNames_parts (store : Store)
    (hincluded : ∀ name ∈ names, name ∉ policy.excluded) :
    (∃ front name back, names = front ++ name :: back ∧
        (∀ other ∈ front, ¬ policy.Misplaced store other) ∧ policy.Misplaced store name ∧
        policy.resolveNames store names = .error ⟨name, policy.markerSegment⟩) ∨
      ((∀ name ∈ names, ¬ policy.Misplaced store name) ∧
        ∃ r, policy.resolveNames store names = .ok r ∧ policy.Parts store names r) := by
  induction names with
  | nil => exact .inr ⟨by simp, ⟨[], []⟩, rfl, rfl, rfl, by simp⟩
  | cons name names ih =>
    rw [List.forall_mem_cons] at hincluded
    by_cases hplaced : policy.Misplaced store name
    · refine .inl ⟨[], name, names, rfl, by simp, hplaced, ?_⟩
      rw [resolveNames, if_neg hincluded.1, patterns_of_misplaced hplaced]
    · rcases ih hincluded.2 with ⟨front, other, back, rfl, hfront, hother, hfault⟩ |
        ⟨hrest, r, hr, hparts⟩
      · exact .inl ⟨name :: front, other, back, rfl, List.forall_mem_cons.mpr ⟨hplaced, hfront⟩,
          hother, resolveNames_cons_error hincluded.1 hplaced hfault⟩
      · exact .inr ⟨List.forall_mem_cons.mpr ⟨hplaced, hrest⟩,
          resolveNames_cons_parts hincluded.1 hplaced hr hparts⟩

/-- A resolution reads what the store holds for types that are not excluded. -/
theorem resolveNames_congr
    (h : ∀ name, name ∉ policy.excluded → ∀ annotationType,
      store'.values ⟨name, annotationType⟩ = store.values ⟨name, annotationType⟩)
    (names : List Text) : policy.resolveNames store' names = policy.resolveNames store names := by
  induction names with
  | nil => rfl
  | cons name names ih =>
    rw [resolveNames, resolveNames, ih]
    split
    next hexcluded => rfl
    next hincluded =>
      have hpatterns : policy.patterns store' name = policy.patterns store name :=
        patterns_eq (by rw [explicitRoutes, explicitRoutes, h name hincluded])
      have hmapping : policy.mapping store' name = policy.mapping store name := by
        funext ps
        rw [mapping, mapping, isElevated, isElevated, h name hincluded]
      rw [hpatterns, hmapping]

/-! ### Sets of candidates -/

/-- The candidates that are not excluded. -/
def considered (policy : Policy) (candidates : NameSet) : NameSet :=
  candidates.filter fun name => name ∉ policy.excluded

/-- The types considered are the candidates that are not excluded. -/
theorem mem_considered {candidates : NameSet} :
    name ∈ policy.considered candidates ↔ name ∈ candidates ∧ name ∉ policy.excluded := by
  rw [considered, NameSet.mem_filter, decide_eq_true_iff]

/-- Resolving is resolving the names that are considered, in their order. -/
theorem resolve_eq_considered (policy : Policy) (store : Store) (candidates : NameSet) :
    policy.resolve store candidates =
      policy.resolveNames store (policy.considered candidates).toList :=
  (resolveNames_filter policy store candidates.toList).symm

/-- The names of a set stand in the order of their bytes. -/
theorem pairwise_encode_lt (s : NameSet) :
    s.toList.Pairwise fun a b => Text.Utf8.encode a < Text.Utf8.encode b :=
  s.ascending.imp Text.Utf8.encode_lt_encode_iff.mpr

/-- The names considered are in the order of the candidates. -/
theorem toList_considered (policy : Policy) (candidates : NameSet) :
    (policy.considered candidates).toList =
      candidates.toList.filter fun name => name ∉ policy.excluded := rfl

/-- A resolution parts the candidates that are not excluded. -/
theorem parts_of_resolve {candidates : NameSet} {r : Resolution}
    (h : policy.resolve store candidates = .ok r) :
    policy.Parts store (policy.considered candidates).toList r := by
  rw [resolve_eq_considered] at h
  have hincluded : ∀ name ∈ (policy.considered candidates).toList, name ∉ policy.excluded :=
    fun name hname => (mem_considered.mp hname).2
  rcases resolveNames_parts store hincluded with
    ⟨_, _, _, -, -, -, hfault⟩ | ⟨-, r', hr', hparts⟩
  · simp [hfault] at h
  · obtain rfl : r' = r := Except.ok.inj (hr'.symm.trans h)
    exact hparts

/-- The mapped types are those candidates that stand among them, in their order. -/
theorem filter_mapped {candidates : NameSet} {r : Resolution}
    (h : policy.resolve store candidates = .ok r) :
    candidates.toList.filter (fun name => name ∈ r.mappings.map (·.typeName)) =
      r.mappings.map (·.typeName) := by
  have hmapped := (parts_of_resolve h).mapped
  rw [toList_considered, List.filter_filter] at hmapped
  rw [hmapped]
  refine List.filter_congr fun name hname => ?_
  simp [List.mem_filter, hname]

/-- The skipped types are the candidates that are neither excluded nor mapped, in their order. -/
theorem filter_skipped {candidates : NameSet} {r : Resolution}
    (h : policy.resolve store candidates = .ok r) :
    candidates.toList.filter (fun name =>
        name ∉ policy.excluded ∧ name ∉ r.mappings.map (·.typeName)) = r.skipped := by
  have hparts := parts_of_resolve h
  rw [hparts.skipped, hparts.mapped, toList_considered, List.filter_filter, List.filter_filter]
  refine List.filter_congr fun name hname => ?_
  by_cases hexcluded : name ∈ policy.excluded <;> simp [List.mem_filter, hname, hexcluded]

/-- What becomes of the candidates. The smallest misplaced one decides which fault is reported.
Without a misplaced one every candidate is mapped or skipped, each list is in byte order, the skipped
types are the unmarked ones, and each mapping describes its type. Excluded types have no influence. -/
theorem resolve_parts (policy : Policy) (store : Store) (candidates : NameSet) :
    ((∃ name ∈ policy.considered candidates, policy.Misplaced store name) →
      ∃ name ∈ policy.considered candidates, policy.Misplaced store name ∧
        (∀ other ∈ policy.considered candidates, policy.Misplaced store other → other ≠ name →
          Text.Utf8.encode name < Text.Utf8.encode other) ∧
        policy.resolve store candidates = .error ⟨name, policy.markerSegment⟩) ∧
    ((∀ name ∈ policy.considered candidates, ¬ policy.Misplaced store name) →
      ∃ r, policy.resolve store candidates = .ok r ∧
        (r.mappings.map (·.typeName) ++ r.skipped).Perm (policy.considered candidates).toList ∧
        (r.mappings.map (·.typeName)).Pairwise
          (fun a b => Text.Utf8.encode a < Text.Utf8.encode b) ∧
        r.skipped.Pairwise (fun a b => Text.Utf8.encode a < Text.Utf8.encode b) ∧
        (∀ name, name ∈ r.skipped ↔
          name ∈ policy.considered candidates ∧ policy.Unmarked store name) ∧
        ∀ m ∈ r.mappings, policy.Describes store m) ∧
    ∀ (store' : Store) (candidates' : NameSet),
      (∀ name, name ∉ policy.excluded → (name ∈ candidates' ↔ name ∈ candidates) ∧
        ∀ annotationType,
          store'.values ⟨name, annotationType⟩ = store.values ⟨name, annotationType⟩) →
      policy.resolve store' candidates' = policy.resolve store candidates := by
  have hincluded : ∀ name ∈ (policy.considered candidates).toList, name ∉ policy.excluded :=
    fun name hname => (mem_considered.mp hname).2
  have hordered := pairwise_encode_lt (policy.considered candidates)
  refine ⟨fun ⟨name, hname, hmisplaced⟩ => ?_, fun hplaced => ?_, fun store' candidates' hsame => ?_⟩
  · -- the names before the first misplaced one have a place, those after it are larger
    rcases resolveNames_parts store hincluded with
      ⟨front, first, back, hsplit, hfront, hfirst, hfault⟩ | ⟨hplaced, -⟩
    · rw [hsplit] at hordered
      refine ⟨first, ?_, hfirst, fun other hother hmisplaced' hne => ?_, ?_⟩
      · rw [NameSet.mem_def, hsplit]
        simp
      · rw [NameSet.mem_def, hsplit, List.mem_append, List.mem_cons] at hother
        rcases hother with hother | rfl | hother
        · exact absurd hmisplaced' (hfront other hother)
        · exact absurd rfl hne
        · exact (List.pairwise_cons.mp (List.pairwise_append.mp hordered).2.1).1 other hother
      · rw [resolve_eq_considered, hfault]
    · exact absurd hmisplaced (hplaced name hname)
  · rcases resolveNames_parts store hincluded with
      ⟨front, first, back, hsplit, -, hfirst, -⟩ | ⟨-, r, hr, hparts⟩
    · refine absurd hfirst (hplaced first ?_)
      rw [NameSet.mem_def, hsplit]
      simp
    · refine ⟨r, (resolve_eq_considered policy store candidates).trans hr, hparts.perm, ?_, ?_,
        fun name => ?_, hparts.describes⟩
      · rw [hparts.mapped]
        exact hordered.filter _
      · rw [hparts.skipped]
        exact hordered.filter _
      · rw [hparts.skipped, List.mem_filter, decide_eq_true_iff, NameSet.mem_def]
  · -- without the excluded types both sets of candidates are the same
    have hconsidered : policy.considered candidates' = policy.considered candidates := by
      refine NameSet.ext_of_mem fun name => ?_
      rw [mem_considered, mem_considered]
      exact and_congr_left fun hname => (hsame name hname).1
    rw [resolve_eq_considered, resolve_eq_considered, hconsidered]
    exact resolveNames_congr (fun name hname => (hsame name hname).2) _

/-- A policy under which one type is excluded. -/
def excludingPolicy : Policy where
  excluded := .ofList ["app.Subcontroller".toList]

/-- A store with the routes and the role of one handler. -/
def panelStore : Store :=
  (Store.empty.append ⟨"app.Panel".toList, excludingPolicy.routeAnnotationType⟩
    ["/y".toList, "/x".toList, "/y".toList]).append
    ⟨"app.Panel".toList, excludingPolicy.roleAnnotationType⟩ [excludingPolicy.elevatedRole]

/-- A handler with routes, one with a marker segment, one without both and one without a place for the
marker. -/
def handlers : NameSet := .ofList ["app.Panel".toList, "app.controller.Home".toList,
  "app.Help".toList, "app.Subcontroller".toList]

/-- The candidate without a place for the marker decides, unless it is excluded. -/
theorem resolve_parts_subcontroller :
    (∀ name ∈ excludingPolicy.considered handlers, ¬ excludingPolicy.Misplaced panelStore name) ∧
      (∃ r, excludingPolicy.resolve panelStore handlers = .ok r ∧
        (r.mappings.map (·.typeName) ++ r.skipped).Perm
          ["app.Help".toList, "app.Panel".toList, "app.controller.Home".toList] ∧
        ∀ m ∈ r.mappings, excludingPolicy.Describes panelStore m) ∧
      (∃ name ∈ Policy.considered {} handlers, Policy.Misplaced {} panelStore name) ∧
      Policy.resolve {} panelStore handlers =
        .error ⟨"app.Subcontroller".toList, "controller".toList⟩ := by
  have hplaced : ∀ name ∈ excludingPolicy.considered handlers,
      ¬ excludingPolicy.Misplaced panelStore name := by
    show ∀ name ∈ (excludingPolicy.considered handlers).toList, _
    decide +kernel
  have hmisplaced : ∃ name ∈ Policy.considered {} handlers,
      Policy.Misplaced {} panelStore name := by
    show ∃ name ∈ (Policy.considered {} handlers).toList, _
    decide +kernel
  have hconsidered : (excludingPolicy.considered handlers).toList =
      ["app.Help".toList, "app.Panel".toList, "app.controller.Home".toList] := by decide +kernel
  obtain ⟨r, hr, hperm, -, -, -, hdescribes⟩ :=
    (resolve_parts excludingPolicy panelStore handlers).2.1 hplaced
  have honly : ∀ name ∈ Policy.considered {} handlers,
      Policy.Misplaced {} panelStore name → name = "app.Subcontroller".toList := by
    show ∀ name ∈ (Policy.considered {} handlers).toList, _
    decide +kernel
  obtain ⟨name, hname, hfirst, -, hfault⟩ := (resolve_parts {} panelStore handlers).1 hmisplaced
  obtain rfl := honly name hname hfirst
  exact ⟨hplaced, ⟨r, hr, hconsidered ▸ hperm, hdescribes⟩, hmisplaced, hfault⟩

end Policy

end ServletRoutes.Route
