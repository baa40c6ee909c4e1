import ServletRoutes.Proofs.Route.Resolution
import ServletRoutes.Proofs.Scan

/-!
# `ServletRoutes.Proofs.Route.Relisting`: an artifact that is listed again

An artifact that is listed again records its tokens again. The subtypes of a
base are the same, and a route that comes twice counts once, so types, URL
patterns, skipped types and faults are the same too. A role is different: a
mapping is elevated by exactly one role token, and a second listing adds a
second one. `resolve_relisted` says which mappings are no longer elevated,
and in `resolve_relisted_guarded` there is one.
-/

set_option autoImplicit false

namespace ServletRoutes.Route

/-- Tokens that repeat some of a list leave it a single token only if there are none of them. -/
theorem append_eq_singleton_iff_of_subset {ts us : List Text} {t : Text} (h : ∀ u ∈ us, u ∈ ts) :
    ts ++ us = [t] ↔ ts = [t] ∧ us = [] := by
  constructor
  · intro heq
    rcases List.append_eq_singleton_iff.mp heq with ⟨hts, hus⟩ | hleft
    · -- the only token would be one of no tokens
      have hmem := h t (by simp [hus])
      simp [hts] at hmem
    · exact hleft
  · rintro ⟨rfl, rfl⟩
    rfl

/-- An artifact that is listed again changes nothing but elevations. The same fault is reported, or
the same types are mapped to the same patterns and the same types are skipped, in the same order. A
mapping is elevated exactly when it was elevated before and the artifact records no role for its
type. -/
theorem resolve_relisted (policy : Policy) (base : Text) (reader : ArtifactReader)
    (options : ScanOptions) (artifacts : List Text) (artifact : Text) (h : artifact ∈ artifacts) :
    let once := Scan.run reader options artifacts
    let twice := Scan.run reader options (artifacts ++ [artifact])
    let own := Scan.run reader options [artifact]
    policy.resolve twice.store (twice.index.subtypesOf base) =
      (policy.resolve once.store (once.index.subtypesOf base)).map fun r =>
        { r with mappings := r.mappings.map fun m =>
            { m with elevated :=
                m.elevated && own.store.values ⟨m.typeName, policy.roleAnnotationType⟩ = [] } } := by
  intro once twice own
  have hsubset : ∀ a ∈ [artifact], a ∈ artifacts := by simpa using h
  have hvalues (key : Annotations.Key) :
      twice.store.values key = once.store.values key ++ own.store.values key :=
    Scan.values_run_append reader options artifacts [artifact] key
  have hown (key : Annotations.Key) : ∀ t ∈ own.store.values key, t ∈ once.store.values key :=
    Scan.values_run_subset reader options hsubset key
  have hsubtypes : twice.index.subtypesOf base = once.index.subtypesOf base :=
    (Scan.agrees_run_append reader options hsubset).subtypesOf_eq base
  rw [Policy.resolve, Policy.resolve, hsubtypes]
  refine Policy.resolveNames_map ?_ ?_ _
  · -- the routes of the artifact are among those that the store has already
    intro name
    refine Policy.patterns_eq ?_
    rw [Policy.explicitRoutes, Policy.explicitRoutes, hvalues]
    exact withoutRepeats_append_of_subset (hown _)
  · -- its roles are too, and for that very reason a single role is single no longer
    intro name ps
    have helevated : policy.isElevated twice.store name =
        (policy.isElevated once.store name &&
          own.store.values ⟨name, policy.roleAnnotationType⟩ = []) := by
      rw [Policy.isElevated, Policy.isElevated, hvalues, Bool.eq_iff_iff, Bool.and_eq_true,
        decide_eq_true_iff, decide_eq_true_iff, decide_eq_true_iff,
        append_eq_singleton_iff_of_subset (hown _)]
    rw [Policy.mapping, helevated]
    rfl

/-! ### Guarded handlers -/

/-- A reader for which every artifact holds one guarded handler, named like the artifact. -/
def guardedReader : ArtifactReader where
  canRead _ := true
  read? path _ := some ⟨[⟨⟨path, [['B']]⟩, [⟨['R'], [("value".toList, .text ('/' :: path))]⟩,
    ⟨['G'], [("value".toList, .text "root".toList)]⟩]⟩], 0, 0⟩

/-- The policy that reads the routes and the guard of these handlers. -/
def guardedPolicy : Policy where
  routeAnnotationType := ['R']
  roleAnnotationType := ['G']
  elevatedRole := "root".toList

/-- The routes of the guarded handlers in a list of artifacts. -/
def guardedRoutes (artifacts : List Text) : Except SegmentMissing Resolution :=
  let scan := Scan.run guardedReader ⟨.acceptAll, [.subtypes, .annotations], false, none⟩ artifacts
  guardedPolicy.resolve scan.store (scan.index.subtypesOf ['B'])

/-- The mapping of a handler. -/
def guardedMapping (name : Text) (elevated : Bool) : Mapping :=
  ⟨name, name, ['/' :: name], elevated⟩

/-- Of two guarded handlers the one whose artifact is listed again is no longer elevated. -/
theorem resolve_relisted_first :
    ['A'] ∈ [['A'], ['C']] ∧
      guardedRoutes ([['A'], ['C']] ++ [['A']]) =
        .ok ⟨[guardedMapping ['A'] false, guardedMapping ['C'] true], []⟩ := by
  have h : ['A'] ∈ [['A'], ['C']] := List.mem_cons_self
  refine ⟨h, (resolve_relisted guardedPolicy ['B'] guardedReader
    ⟨.acceptAll, [.subtypes, .annotations], false, none⟩ [['A'], ['C']] ['A'] h).trans ?_⟩
  exact eq_ok_of_toOption (by decide +kernel)

/-- A guarded handler is elevated, and it is not when its artifact is listed once more. -/
theorem resolve_relisted_guarded :
    guardedRoutes [['A']] = .ok ⟨[guardedMapping ['A'] true], []⟩ ∧
      guardedRoutes ([['A']] ++ [['A']]) = .ok ⟨[guardedMapping ['A'] false], []⟩ :=
  ⟨eq_ok_of_toOption (by decide +kernel), eq_ok_of_toOption (by decide +kernel)⟩

end ServletRoutes.Route
