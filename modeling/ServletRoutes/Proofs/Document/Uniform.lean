import Mathlib.Data.List.Chain
import ServletRoutes.Proofs.Document.Revision

/-!
# `ServletRoutes.Proofs.Document.Uniform`: line breaks of one kind

A document has uniform line breaks when they are all of the kind that is
found in it (`Uniform`). Texts that are put together or taken apart keep this,
unless the seam is in the middle of a two-character line break
(`unmixed_append_iff`). Markers and anchors begin and end with brackets, so no
such seam arises where a region is refilled or opened.

`Revision.uniform_apply` says this for one revision, and
`revisions_keep_uniform` for revisions one after the other, whatever line
breaks their mappings hold.
-/

set_option autoImplicit false

namespace ServletRoutes.Document

open Route (Mapping)

namespace LineEnding

variable {t x y : Text} {ending : LineEnding}

/-- Every carriage return stands before a line feed, and every line feed behind a carriage return. -/
structure Paired (t : Text) : Prop where
  return_feed : ∀ front back, t = front ++ '\r' :: back → back.head? = some '\n'
  feed_return : ∀ front back, t = front ++ '\n' :: back → front.getLast? = some '\r'

/-- Line breaks of the other kind do not occur in a text. -/
def Unmixed : LineEnding → Text → Prop
  | lf, t => '\r' ∉ t
  | crlf, t => Paired t

/-- All line breaks of a document are of one kind. There need not be one-character line breaks in a
document, but there have to be two-character ones. -/
def Uniform : LineEnding → Text → Prop
  | lf, t => '\r' ∉ t
  | crlf, t => crlf.text <:+: t ∧ Paired t

/-- Uniform line breaks are of the kind that is found in the document. -/
theorem uniform_iff : Uniform ending t ↔ Unmixed ending t ∧ detect t = ending := by
  cases ending with
  | lf =>
    refine (and_iff_left_of_imp fun hreturn => ?_).symm
    exact detect_eq_lf_iff.mpr (Text.not_infix_of_mem_of_notMem (by simp [text]) hreturn)
  | crlf =>
    rw [detect_eq_crlf_iff]
    exact and_comm

/-! ### Putting texts together -/

/-- Of two neighbours the first is a carriage return exactly when the second is a line feed. At the
ends of the text the other one of the two would be missing. -/
theorem paired_iff_isChain :
    Paired t ↔ t.head? ≠ some '\n' ∧ t.getLast? ≠ some '\r' ∧
      t.IsChain fun c d => c = '\r' ↔ d = '\n' := by
  rw [List.isChain_iff_forall_rel_of_append_cons_cons]
  constructor
  · intro h
    refine ⟨fun hhead => ?_, fun hlast => ?_, fun c d front back heq => ⟨?_, ?_⟩⟩
    · obtain ⟨back, rfl⟩ := List.head?_eq_some_iff.mp hhead
      simpa using h.feed_return [] back rfl
    · obtain ⟨front, rfl⟩ := List.getLast?_eq_some_iff.mp hlast
      simpa using h.return_feed front [] rfl
    · rintro rfl
      simpa using h.return_feed front (d :: back) heq
    · rintro rfl
      simpa using h.feed_return (front ++ [c]) back (by simpa using heq)
  · rintro ⟨hhead, hlast, hchain⟩
    constructor
    · rintro front back rfl
      cases back with
      | nil => simp at hlast
      | cons d back => simpa using hchain rfl
    · rintro front back rfl
      rcases List.eq_nil_or_concat' front with rfl | ⟨front, c, rfl⟩
      · simp at hhead
      · simpa using hchain (List.append_assoc front [c] ('\n' :: back))

instance : Decidable (Paired t) := decidable_of_iff _ paired_iff_isChain.symm

/-- Line breaks that are paired in two texts are paired in the two put together, and the other way
round where the seam is in no line break. -/
theorem paired_append_iff (hseam : ¬ (x.getLast? = some '\r' ∧ y.head? = some '\n')) :
    Paired (x ++ y) ↔ Paired x ∧ Paired y := by
  have hnil : Paired [] := paired_iff_isChain.mpr (by simp)
  cases y with
  | nil => simp [hnil]
  | cons d y =>
    rcases List.eq_nil_or_concat' x with rfl | ⟨x, c, rfl⟩
    · simp [hnil]
    · -- the two characters at the seam are neighbours
      have hends : (c = '\r' ↔ d = '\n') ↔ c ≠ '\r' ∧ d ≠ '\n' := by
        simp only [List.getLast?_concat, List.head?_cons, Option.some.injEq] at hseam
        tauto
      have hhead : (x ++ [c] ++ d :: y).head? = (x ++ [c]).head? :=
        List.head?_append_of_ne_nil _ (by simp)
      have hlast : (x ++ [c] ++ d :: y).getLast? = (d :: y).getLast? :=
        List.getLast?_append_of_ne_nil _ (by simp)
      simp only [paired_iff_isChain, hhead, hlast, List.isChain_append, List.getLast?_concat,
        List.head?_cons, Option.mem_some_iff, forall_eq', hends, ne_eq, Option.some.injEq]
      tauto

/-- A text without line breaks mixes none. -/
theorem unmixed_of_notMem (hreturn : '\r' ∉ t) (hfeed : '\n' ∉ t) : Unmixed ending t := by
  cases ending with
  | lf => exact hreturn
  | crlf =>
    constructor
    · rintro front back rfl
      simp at hreturn
    · rintro front back rfl
      simp at hfeed

/-- A line ending is of its own kind. -/
theorem unmixed_text (ending : LineEnding) : Unmixed ending ending.text := by
  cases ending with
  | lf => show '\r' ∉ lf.text; decide
  | crlf => show Paired crlf.text; decide

/-- Line breaks of one kind in two texts are of one kind in the two put together, and the other way
round where the seam is in no line break. -/
theorem unmixed_append_iff (hseam : ¬ (x.getLast? = some '\r' ∧ y.head? = some '\n')) :
    Unmixed ending (x ++ y) ↔ Unmixed ending x ∧ Unmixed ending y := by
  cases ending with
  | lf => exact List.mem_append.not.trans not_or
  | crlf => exact paired_append_iff hseam

namespace Unmixed

/-- Line breaks that were not mixed are not mixed when texts are put together. -/
theorem append (hx : Unmixed ending x) (hy : Unmixed ending y) : Unmixed ending (x ++ y) := by
  refine (unmixed_append_iff fun hseam => ?_).mpr ⟨hx, hy⟩
  cases ending with
  | lf => exact hx (List.mem_of_getLast? hseam.1)
  | crlf => exact (paired_iff_isChain.mp hx).2.1 hseam.1

/-- Texts one after the other. -/
theorem flatMap {α : Type} {items : List α} {f : α → Text}
    (h : ∀ a ∈ items, Unmixed ending (f a)) : Unmixed ending (items.flatMap f) := by
  induction items with
  | nil => exact unmixed_of_notMem List.not_mem_nil List.not_mem_nil
  | cons a items ih =>
    rw [List.forall_mem_cons] at h
    exact h.1.append (ih h.2)

/-- The parts of a text that is cut in front of a bracket. -/
theorem cut_open (h : Unmixed ending (x ++ y)) (hy : y.head? = some '<') :
    Unmixed ending x ∧ Unmixed ending y :=
  (unmixed_append_iff (by simp [hy])).mp h

/-- The parts of a text that is cut behind a bracket. -/
theorem cut_close (h : Unmixed ending (x ++ y)) (hx : x.getLast? = some '>') :
    Unmixed ending x ∧ Unmixed ending y :=
  (unmixed_append_iff (by simp [hx])).mp h

/-- Blanks mix nothing. -/
theorem blanks (n : Nat) : Unmixed ending (List.replicate n ' ') :=
  unmixed_of_notMem (by simp) (by simp)

end Unmixed

end LineEnding

open LineEnding (Unmixed Uniform unmixed_of_notMem unmixed_text)

variable {document : Text} {updated : Updated} {rev : Revision} {ending : LineEnding}

/-- A tag mixes no line breaks. -/
theorem IsTag.unmixed {tag : Text} (h : IsTag tag) : Unmixed ending tag :=
  unmixed_of_notMem (h.break_notMem (.inl rfl)) (h.break_notMem (.inr rfl))

/-- A fragment has the line breaks that it was asked for. -/
theorem Shape.unmixed_render (shape : Shape) (ms : List Mapping) (ending : LineEnding) :
    Unmixed ending (shape.render ms ending) := by
  have hindent : Unmixed ending shape.indent := by cases shape <;> exact .blanks _
  refine ((unmixed_text ending).append (.flatMap fun line hline => ?_)).append hindent
  obtain ⟨m, -, hline⟩ := List.mem_flatMap.mp hline
  refine (hindent.append ?_).append (unmixed_text ending)
  exact unmixed_of_notMem (break_notMem_linesOf (.inl rfl) hline)
    (break_notMem_linesOf (.inr rfl) hline)

/-- What is put around a region has the line breaks of the document, and the region is put in front of
a bracket. -/
theorem Layout.unmixed_of_mem_insertionPoints {layout : Layout} {point : InsertionPoint}
    (h : point ∈ layout.insertionPoints ending) :
    Unmixed ending point.lead ∧ Unmixed ending point.trail ∧ point.anchor.head? = some '<' := by
  have hsection : Unmixed ending "    <system-properties>".toList ∧
      Unmixed ending "    </system-properties>".toList :=
    ⟨unmixed_of_notMem (by decide) (by decide),
      unmixed_of_notMem (by decide) (by decide)⟩
  have hending := unmixed_text ending
  cases layout with
  | webApp =>
    obtain rfl := List.mem_singleton.mp h
    exact ⟨hending.append (.blanks 4), hending, rfl⟩
  | appEngineWebApp =>
    simp only [insertionPoints, List.mem_cons, List.not_mem_nil, or_false] at h
    rcases h with rfl | rfl
    · exact ⟨hending.append (.blanks 8), hending.append (.blanks 4), rfl⟩
    · exact ⟨((hending.append hsection.1).append hending).append (.blanks 8),
        (hending.append hsection.2).append hending, rfl⟩

/-- The place for a region in a document with line breaks of one kind has such line breaks around
it. -/
theorem Layout.unmixed_place {layout : Layout} {r : Region} {action : Action}
    (h : layout.place document = .ok (r, action)) (hdocument : Uniform ending document) :
    Unmixed ending r.head ∧ Unmixed ending r.tail := by
  obtain ⟨hunmixed, hdetect⟩ := LineEnding.uniform_iff.mp hdocument
  rcases Layout.place_cases h with ⟨-, rfl, -⟩ | ⟨-, -, point, before, after, hopening, rfl⟩
  · -- the markers cut the document in front of brackets and behind them
    have hback : (r.head ++ startMarker ++ r.body ++ endMarker).getLast? = some '>' := by
      rw [List.getLast?_append_of_ne_nil _ isTag_endMarker.ne_nil]
      decide
    refine ⟨?_, (hunmixed.cut_close hback).2⟩
    simp only [Region.text, List.append_assoc] at hunmixed
    exact (hunmixed.cut_open rfl).1
  -- the document is cut in front of an anchor, and what is put in has its line endings
  · obtain ⟨hpoint, hdocument⟩ := opening?_eq_some hopening
    rw [hdetect] at hpoint
    obtain ⟨hlead, htrail, hanchor⟩ := unmixed_of_mem_insertionPoints hpoint
    have hhead : (point.anchor ++ after).head? = some '<' := by
      rw [List.head?_append, hanchor]
      rfl
    rw [hdocument, List.append_assoc] at hunmixed
    obtain ⟨hbefore, hafter⟩ := hunmixed.cut_open hhead
    refine ⟨hbefore.append hlead, ?_⟩
    rw [opened, List.append_assoc]
    exact htrail.append hafter

namespace Revision

/-- A revision of a document with uniform line breaks leaves it with such line breaks. -/
theorem uniform_apply (h : rev.apply document = .ok updated) (hdocument : Uniform ending document) :
    Uniform ending updated.text := by
  obtain ⟨hunmixed, hdetect⟩ := LineEnding.uniform_iff.mp hdocument
  obtain ⟨r, hplace, htext, -⟩ := locate?_of_update (rev.endMarker_not_infix_fragment document) h
  obtain ⟨hhead, htail⟩ := Layout.unmixed_place hplace hdocument
  have hfragment : Unmixed ending (rev.fragment document) := by
    rw [fragment, hdetect]
    exact rev.shape.unmixed_render rev.mappings ending
  have hrevised : Unmixed ending updated.text := by
    rw [htext]
    exact (((hhead.append isTag_startMarker.unmixed).append hfragment).append
      isTag_endMarker.unmixed).append htail
  refine LineEnding.uniform_iff.mpr ⟨hrevised, ?_⟩
  cases ending with
  | lf => exact (LineEnding.uniform_iff.mp (show Uniform .lf updated.text from hrevised)).2
  | crlf =>
    rw [htext]
    exact detect_withBody_crlf hdetect

end Revision

/-- Steps succeed in turn exactly when the first ones do, and then the others on the text that these
leave. -/
theorem inTurn_append_eq_ok_iff (steps steps' : List (Text → Except Fault Updated))
    (document result : Text) :
    inTurn (steps ++ steps') document = .ok result ↔
      ∃ text, inTurn steps document = .ok text ∧ inTurn steps' text = .ok result := by
  induction steps generalizing document with
  | nil => simp [inTurn]
  | cons step steps ih =>
    rw [List.cons_append, inTurn, inTurn]
    cases step document with
    | error fault => simp
    | ok updated => exact ih updated.text

/-- Revisions one after the other leave a document with line breaks of one kind. -/
theorem uniform_of_inTurn {revisions : List Revision} {result : Text}
    (hdocument : Uniform ending document)
    (h : inTurn (revisions.map Revision.apply) document = .ok result) : Uniform ending result := by
  induction revisions generalizing document with
  | nil =>
    obtain rfl := Except.ok.inj h
    exact hdocument
  | cons rev revisions ih =>
    rw [List.map_cons, inTurn] at h
    cases hfirst : rev.apply document with
    | error fault => simp [hfirst] at h
    | ok updated =>
      rw [hfirst] at h
      exact ih (Revision.uniform_apply hfirst hdocument) h

/-- Revisions leave the line breaks of a document as uniform as they were, whatever they declare, in
whatever shape and for whatever layout. A document without carriage returns stays without them, and
in one with two-character line breaks only the two characters stay paired. This is so after every
revision, and each of them finds the line ending that the first one found. -/
theorem revisions_keep_uniform (revisions : List Revision) (document result : Text)
    (ending : LineEnding) (hdocument : Uniform ending document)
    (h : inTurn (revisions.map Revision.apply) document = .ok result) :
    Uniform ending result ∧ LineEnding.detect result = .detect document ∧
      ∀ first rest, revisions = first ++ rest → ∃ revised,
        inTurn (first.map Revision.apply) document = .ok revised ∧
          inTurn (rest.map Revision.apply) revised = .ok result ∧
          Uniform ending revised ∧ LineEnding.detect revised = .detect document := by
  have hkept {text : Text} (htext : Uniform ending text) :
      LineEnding.detect text = .detect document := by
    rw [(LineEnding.uniform_iff.mp htext).2, (LineEnding.uniform_iff.mp hdocument).2]
  have hresult := uniform_of_inTurn hdocument h
  refine ⟨hresult, hkept hresult, ?_⟩
  rintro first rest rfl
  rw [List.map_append, inTurn_append_eq_ok_iff] at h
  obtain ⟨revised, hfirst, hrest⟩ := h
  have hrevised := uniform_of_inTurn hdocument hfirst
  exact ⟨revised, hfirst, hrest, hrevised, hkept hrevised⟩

/-- A document with two-character line breaks, by what stands between the first two of them. -/
def twoBreaks (between : Text) : Text :=
  "<appengine-web-app>\r\n".toList ++ between ++ "</appengine-web-app>\r\n".toList

/-- An empty section of properties with a region, by its body. -/
def propertySection (body : Text) : Text :=
  "\r\n    <system-properties>\r\n        ".toList ++ startMarker ++ body ++ endMarker ++
    "\r\n    </system-properties>\r\n".toList

/-- A region is opened with line breaks in the values of its mappings, and emptied again. -/
theorem revisions_keep_uniform_crlf :
    Uniform .crlf (twoBreaks []) ∧
      inTurn
        ([⟨.appEngineWebApp, .systemProperties, [⟨['\n'], [], [['\r'], ['\n', '\r']], true⟩]⟩,
          ⟨.webApp, .servletMappings true, []⟩].map Revision.apply) (twoBreaks []) =
        .ok (twoBreaks (propertySection "\r\n    ".toList)) ∧
      Uniform .crlf (twoBreaks (propertySection "\r\n    ".toList)) := by
  have hdocument : Uniform .crlf (twoBreaks []) :=
    ⟨Text.contains_iff.mp (by decide +kernel), by decide +kernel⟩
  have h : inTurn
      ([⟨.appEngineWebApp, .systemProperties, [⟨['\n'], [], [['\r'], ['\n', '\r']], true⟩]⟩,
        ⟨.webApp, .servletMappings true, []⟩].map Revision.apply) (twoBreaks []) =
      .ok (twoBreaks (propertySection "\r\n    ".toList)) := eq_ok_of_toOption (by decide +kernel)
  exact ⟨hdocument, h, (revisions_keep_uniform _ _ _ _ hdocument h).1⟩

end ServletRoutes.Document
