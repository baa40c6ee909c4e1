import ServletRoutes.Proofs.Route.Partition
import ServletRoutes.Proofs.Text.Replacement
import ServletRoutes.Proofs.Text.Slice
import ServletRoutes.Route.Slicing

/-!
# `ServletRoutes.Proofs.Route.Convention`: conventional routes of dotted names

The marker is looked for in a name with dots, and its segment in the name that
is read with slashes. Both agree for names without slashes of their own and
markers without dots and slashes: `cut?_segment` says that the segment stands
where the marker stands in front of a dot.

`slicedRoute?_eq` says that the cut by offsets is the cut by characters, for
every name and marker. `resolve_dotted` puts this together for a candidate
without explicit routes: its route is told by the dotted name alone.
-/

set_option autoImplicit false

namespace ServletRoutes.Route.Policy

open Annotations (Store)
open Text.Utf8 (encode find? slice?)

variable {policy : Policy} {store : Store} {candidates : NameSet} {name : Text}

/-! ### Cuts by offsets -/

/-- The route that is cut at an offset is the one that follows the segment, so no cut lies within a
code point. -/
theorem slicedRoute?_eq (policy : Policy) (name : Text) :
    policy.slicedRoute? name = some ((policy.conventionalRoute name).map encode) := by
  rw [slicedRoute?, Text.Utf8.find?_encode, conventionalRoute]
  cases hcut : Text.cut? (policy.markerSegment ++ ['/']) (Text.replace '.' '/' name) with
  | none => rfl
  | some parts =>
    obtain ⟨front, rest⟩ := parts
    have hoffset : Text.byteSize front + (encode (policy.markerSegment ++ ['/'])).length =
        Text.byteSize (front ++ (policy.markerSegment ++ ['/'])) := by
      rw [Text.length_encode, Text.byteSize_append front]
    rw [Text.cut?_eq_some hcut, Option.map_some]
    simp only [hoffset, Text.Utf8.slice?_encode_back, Option.map_some, Except.map]
    rw [Text.encode_append policy.routeRoot]

/-! ### The segment of a dotted name -/

/-- The first place in a name where the marker stands in front of a dot, by what stands before the
marker and behind the dot. -/
structure FirstSegment (policy : Policy) (name front rest : Text) : Prop where
  name_eq : name = front ++ (policy.markerSegment ++ ['.']) ++ rest
  first : ¬ policy.markerSegment ++ ['.'] <:+: front ++ policy.markerSegment

/-- A name either has such a place or none. -/
theorem exists_firstSegment (h : policy.markerSegment ++ ['.'] <:+: name) :
    ∃ front rest, policy.FirstSegment name front rest := by
  cases hcut : Text.cut? (policy.markerSegment ++ ['.']) name with
  | none => exact absurd h (Text.cut?_eq_none_iff.mp hcut)
  | some parts =>
    obtain ⟨hname, hfirst⟩ := (Text.cut?_eq_some_iff (by simp)).mp hcut
    rw [List.dropLast_concat] at hfirst
    exact ⟨parts.1, parts.2, hname, hfirst⟩

/-- The segment is found in the name with slashes where the marker stands in front of a dot. -/
theorem cut?_segment (hdot : '.' ∉ policy.markerSegment) (hslash : '/' ∉ policy.markerSegment)
    (hname : '/' ∉ name) :
    Text.cut? (policy.markerSegment ++ ['/']) (Text.replace '.' '/' name) =
      (Text.cut? (policy.markerSegment ++ ['.']) name).map fun parts =>
        (Text.replace '.' '/' parts.1, Text.replace '.' '/' parts.2) := by
  have hsegment : Text.replace '.' '/' (policy.markerSegment ++ ['.']) =
      policy.markerSegment ++ ['/'] := by
    rw [Text.replace_append, Text.replace_of_notMem hdot]
    rfl
  rw [← hsegment, Text.cut?_replace _ hname]
  simpa using hslash

/-- The route of a name is what follows its first marker segment, with slashes for dots. -/
theorem conventionalRoute_of_firstSegment {front rest : Text}
    (hdot : '.' ∉ policy.markerSegment) (hslash : '/' ∉ policy.markerSegment)
    (hname : '/' ∉ name) (h : policy.FirstSegment name front rest) :
    policy.conventionalRoute name = .ok (policy.routeRoot ++ Text.replace '.' '/' rest) := by
  have hcut : Text.cut? (policy.markerSegment ++ ['.']) name = some (front, rest) := by
    refine (Text.cut?_eq_some_iff (by simp)).mpr ⟨h.name_eq, ?_⟩
    rw [List.dropLast_concat]
    exact h.first
  rw [conventionalRoute, cut?_segment hdot hslash hname, hcut]
  rfl

/-- A name is misplaced where it holds the marker, but never in front of a dot. -/
theorem misplaced_of_dotted (hdot : '.' ∉ policy.markerSegment)
    (hslash : '/' ∉ policy.markerSegment) (hname : '/' ∉ name)
    (hunrouted : policy.explicitRoutes store name = []) (hmarked : policy.markerSegment <:+: name)
    (hunsegmented : ¬ policy.markerSegment ++ ['.'] <:+: name) : policy.Misplaced store name := by
  refine ⟨hunrouted, hmarked, ?_⟩
  rw [← Text.cut?_eq_none_iff, cut?_segment hdot hslash hname,
    Text.cut?_eq_none_iff.mpr hunsegmented]
  rfl

/-! ### What a resolution makes of a name -/

/-- The patterns that a name without explicit routes is routed by are those it has. -/
theorem Routed.patterns_eq {ps : List Text} (h : policy.Routed store name ps)
    (hunrouted : policy.explicitRoutes store name = []) : policy.patterns store name = .ok ps := by
  cases h with
  | explicit hrouted _ => exact absurd hunrouted hrouted
  | conventional front rest _ hmarked hsegment hfirst =>
    have hcut : Text.cut? (policy.markerSegment ++ ['/']) (Text.replace '.' '/' name) =
        some (front, rest) := by
      refine (Text.cut?_eq_some_iff (by simp)).mpr ⟨hsegment, ?_⟩
      rwa [List.dropLast_concat]
    rw [patterns_of_marked hunrouted hmarked, conventionalRoute, hcut]
    rfl

/-- A resolution maps a name that holds the marker, by the patterns that the name has. -/
theorem mapped_of_marked {r : Resolution} {ps : List Text}
    (h : policy.resolve store candidates = .ok r) (hconsidered : name ∈ policy.considered candidates)
    (hunrouted : policy.explicitRoutes store name = []) (hmarked : policy.markerSegment <:+: name)
    (hpatterns : policy.patterns store name = .ok ps) :
    (∃ m ∈ r.mappings, m.typeName = name) ∧
      ∀ m ∈ r.mappings, m.typeName = name → m.patterns = ps := by
  have hparts := parts_of_resolve h
  constructor
  · have hmapped : name ∈ r.mappings.map (·.typeName) := by
      rw [hparts.mapped, List.mem_filter]
      exact ⟨hconsidered, decide_eq_true fun hunmarked => hunmarked.unmarked hmarked⟩
    simpa using hmapped
  · rintro m hm rfl
    have hrouted := ((hparts.describes m hm).routed).patterns_eq hunrouted
    exact Except.ok.inj (hrouted.symm.trans hpatterns)

/-- A resolution skips an unmarked name. -/
theorem skipped_of_unmarked {r : Resolution} (h : policy.resolve store candidates = .ok r)
    (hconsidered : name ∈ policy.considered candidates) (hunmarked : policy.Unmarked store name) :
    name ∈ r.skipped ∧ ∀ m ∈ r.mappings, m.typeName ≠ name := by
  have hparts := parts_of_resolve h
  constructor
  · rw [hparts.skipped, List.mem_filter]
    exact ⟨hconsidered, decide_eq_true hunmarked⟩
  · rintro m hm rfl
    have hmapped := List.mem_map_of_mem (f := (·.typeName)) hm
    rw [hparts.mapped, List.mem_filter] at hmapped
    exact of_decide_eq_true hmapped.2 hunmarked

/-- A misplaced name makes a resolution fail, for this name or for a smaller one that is misplaced. -/
theorem fault_of_misplaced (hconsidered : name ∈ policy.considered candidates)
    (h : policy.Misplaced store name) :
    ∃ first ∈ policy.considered candidates, policy.Misplaced store first ∧
      (first = name ∨ encode first < encode name) ∧
      policy.resolve store candidates = .error ⟨first, policy.markerSegment⟩ := by
  have hincluded : ∀ name ∈ (policy.considered candidates).toList, name ∉ policy.excluded :=
    fun name hname => (mem_considered.mp hname).2
  rcases resolveNames_parts store hincluded with
    ⟨front, first, back, hsplit, hfront, hfirst, hfault⟩ | ⟨hplaced, -⟩
  · have hordered := pairwise_encode_lt (policy.considered candidates)
    have hname : name ∈ front ++ first :: back := hsplit ▸ NameSet.mem_def.mp hconsidered
    rw [hsplit] at hordered
    refine ⟨first, NameSet.mem_def.mpr (by simp [hsplit]), hfirst, ?_, ?_⟩
    · rcases List.mem_append.mp hname with hname | hname
      · exact absurd h (hfront name hname)
      · rcases List.mem_cons.mp hname with rfl | hname
        · exact .inl rfl
        · have hlater := (List.pairwise_cons.mp (List.pairwise_append.mp hordered).2.1).1
          exact .inr (hlater name hname)
    · rw [resolve_eq_considered, hfault]
  · exact absurd h (hplaced name hconsidered)

/-- What becomes of a candidate without explicit routes is told by its dotted name, for every policy
whose marker holds neither dots nor slashes and every name without slashes.

Where the marker stands in front of a dot, the one pattern is the root followed by what stands behind
the first such place, with slashes for its dots. Where the marker stands in the name, but never in front
of a dot, the resolution fails for this name, unless it fails for a smaller one. Where the marker does
not stand in the name, the type is skipped. The route that is cut by offsets is this one, as the cut is
never within a code point. -/
theorem resolve_dotted (policy : Policy) (store : Store) (candidates : NameSet) (name : Text)
    (hdot : '.' ∉ policy.markerSegment) (hslash : '/' ∉ policy.markerSegment)
    (hname : '/' ∉ name) (hunrouted : policy.explicitRoutes store name = [])
    (hcandidate : name ∈ candidates) (hincluded : name ∉ policy.excluded) :
    (policy.markerSegment ++ ['.'] <:+: name →
      ∃ front rest, policy.FirstSegment name front rest ∧
        policy.patterns store name = .ok [policy.routeRoot ++ Text.replace '.' '/' rest] ∧
        ∀ r, policy.resolve store candidates = .ok r →
          (∃ m ∈ r.mappings, m.typeName = name) ∧
            ∀ m ∈ r.mappings, m.typeName = name →
              m.patterns = [policy.routeRoot ++ Text.replace '.' '/' rest]) ∧
    (policy.markerSegment <:+: name → ¬ policy.markerSegment ++ ['.'] <:+: name →
      policy.patterns store name = .error ⟨name, policy.markerSegment⟩ ∧
        ∃ first ∈ policy.considered candidates, policy.Misplaced store first ∧
          (first = name ∨ encode first < encode name) ∧
          policy.resolve store candidates = .error ⟨first, policy.markerSegment⟩) ∧
    (¬ policy.markerSegment <:+: name →
      policy.patterns store name = .ok [] ∧
        ∀ r, policy.resolve store candidates = .ok r →
          name ∈ r.skipped ∧ ∀ m ∈ r.mappings, m.typeName ≠ name) ∧
    policy.slicedRoute? name = some ((policy.conventionalRoute name).map encode) := by
  have hconsidered : name ∈ policy.considered candidates :=
    mem_considered.mpr ⟨hcandidate, hincluded⟩
  refine ⟨fun hsegment => ?_, fun hmarked hunsegmented => ?_, fun hunmarked => ?_,
    slicedRoute?_eq policy name⟩
  -- the first segment that is the marker decides
  · have hmarked : policy.markerSegment <:+: name :=
      (List.prefix_append policy.markerSegment ['.']).isInfix.trans hsegment
    obtain ⟨front, rest, hfirst⟩ := exists_firstSegment hsegment
    have hpatterns : policy.patterns store name =
        .ok [policy.routeRoot ++ Text.replace '.' '/' rest] := by
      rw [patterns_of_marked hunrouted hmarked,
        conventionalRoute_of_firstSegment hdot hslash hname hfirst]
      rfl
    exact ⟨front, rest, hfirst, hpatterns, fun r hr =>
      mapped_of_marked hr hconsidered hunrouted hmarked hpatterns⟩
  -- the marker only ends the name or stands within a longer segment
  · have hmisplaced := misplaced_of_dotted hdot hslash hname hunrouted hmarked hunsegmented
    exact ⟨patterns_of_misplaced hmisplaced, fault_of_misplaced hconsidered hmisplaced⟩
  -- there is no marker at all
  · have hskipped : policy.Unmarked store name := ⟨hunrouted, hunmarked⟩
    exact ⟨patterns_of_unmarked hskipped, fun r hr => skipped_of_unmarked hr hconsidered hskipped⟩

/-- A name that holds the marker three times, twice in front of a dot and first within a longer
segment. -/
def nestedName : Text := "controllers.controller.über.controller.X".toList

/-- Only what follows the first segment counts, and the segments in it are kept. -/
theorem resolve_dotted_nested :
    '.' ∉ Policy.markerSegment {} ∧ '/' ∉ Policy.markerSegment {} ∧ '/' ∉ nestedName ∧
      Policy.explicitRoutes {} .empty nestedName = [] ∧
      nestedName ∈ NameSet.ofList [nestedName] ∧ nestedName ∉ Policy.excluded {} ∧
      Policy.patterns {} .empty nestedName = .ok ["/do/über/controller/X".toList] := by
  have hdot : '.' ∉ Policy.markerSegment {} := by decide +kernel
  have hslash : '/' ∉ Policy.markerSegment {} := by decide +kernel
  have hname : '/' ∉ nestedName := by decide +kernel
  have hunrouted : Policy.explicitRoutes {} .empty nestedName = [] := rfl
  have hcandidate : nestedName ∈ NameSet.ofList [nestedName] := by simp
  have hincluded : nestedName ∉ Policy.excluded {} := NameSet.not_mem_empty
  have hsegment : Policy.markerSegment {} ++ ['.'] <:+: nestedName :=
    Text.contains_iff.mp (by decide +kernel)
  obtain ⟨front, rest, hfirst, hpatterns, -⟩ := (resolve_dotted {} .empty _ nestedName hdot hslash
    hname hunrouted hcandidate hincluded).1 hsegment
  refine ⟨hdot, hslash, hname, hunrouted, hcandidate, hincluded, ?_⟩
  -- what follows the first segment
  have hcut : Text.cut? (Policy.markerSegment {} ++ ['.']) nestedName =
      some ("controllers.".toList, "über.controller.X".toList) := by decide +kernel
  have hcut' : Text.cut? (Policy.markerSegment {} ++ ['.']) nestedName = some (front, rest) := by
    refine (Text.cut?_eq_some_iff (by simp)).mpr ⟨hfirst.name_eq, ?_⟩
    rw [List.dropLast_concat]
    exact hfirst.first
  obtain ⟨-, rfl⟩ := Prod.mk.inj (Option.some.inj (hcut'.symm.trans hcut))
  exact hpatterns

end ServletRoutes.Route.Policy
