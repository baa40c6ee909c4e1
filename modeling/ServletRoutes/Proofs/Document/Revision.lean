import ServletRoutes.Proofs.Document.Fragment
import ServletRoutes.Proofs.Document.LineEnding
import ServletRoutes.Proofs.Document.Update

/-!
# `ServletRoutes.Proofs.Document.Revision`: documents that are revised again

A revision renders its mappings with the line ending that it finds in the
document and puts them into the region. What it leaves is what the next
revision reads, so everything hangs on the line ending that is found there:

* `Revision.detect_apply`: a revision keeps the line ending of a document,
  unless it opens a region right behind a lone carriage return.
* `Revision.apply_apply`: the same revision once more changes nothing, with
  the same exception.
* `inTurn_apply`: a document that has a region takes any number of
  revisions and shows only the last one.
-/

set_option autoImplicit false

namespace ServletRoutes.Document

open Route (Mapping)

/-- What a document is to declare, in which shape, and where a region for it would be opened. -/
structure Revision where
  layout : Layout
  shape : Shape
  mappings : List Mapping

variable {document : Text} {rev : Revision} {r : Region} {updated : Updated}

/-- A region would be opened right behind a carriage return, in a document without two-character
line endings. The line feed that opens the region completes such a return. -/
def Layout.opensAtReturn (layout : Layout) (document : Text) : Bool :=
  !Text.contains startMarker document && LineEnding.detect document = .lf &&
    match layout.opening? document with
    | some (_, before, _) => before.getLast? = some '\r'
    | none => false

namespace Revision

/-- The fragment of a revision has the line ending of the document it goes into. -/
def fragment (rev : Revision) (document : Text) : Text :=
  rev.shape.render rev.mappings (.detect document)

/-- Carries out a revision on a document. -/
def apply (rev : Revision) (document : Text) : Except Fault Updated :=
  update rev.layout (rev.fragment document) document

/-- A generated body does not close its own region. -/
theorem endMarker_not_infix_fragment (rev : Revision) (document : Text) :
    ¬ endMarker <:+: rev.fragment document :=
  foreign_endMarker.not_infix_render rev.shape rev.mappings _

/-- The fragment for a document without two-character line endings has no carriage return, and
neither has the region around it. -/
theorem return_notMem_region (h : LineEnding.detect document = .lf) :
    '\r' ∉ startMarker ++ rev.fragment document ++ endMarker := by
  have hfragment : '\r' ∉ rev.fragment document := by
    rw [fragment, h]
    exact return_notMem_render_lf rev.shape rev.mappings
  simp only [List.mem_append, not_or]
  exact ⟨⟨isTag_startMarker.break_notMem (.inl rfl), hfragment⟩,
    isTag_endMarker.break_notMem (.inl rfl)⟩

/-- A fragment with two-character line endings shows that in the document it goes into. -/
theorem detect_withBody_crlf (h : LineEnding.detect document = .crlf) :
    LineEnding.detect (r.withBody (rev.fragment document)).text = .crlf := by
  have hbegin : LineEnding.crlf.text <+: rev.fragment document := by
    rw [fragment, h]
    exact prefix_render rev.shape rev.mappings .crlf
  refine LineEnding.detect_eq_crlf_iff.mpr (hbegin.isInfix.trans ?_)
  exact ⟨r.head ++ startMarker, endMarker ++ r.tail, by simp [Region.text]⟩

/-- A new body leaves the line ending of the document as it was found, even if only the old body
showed it. -/
theorem detect_withBody (rev : Revision) (r : Region) :
    LineEnding.detect (r.withBody (rev.fragment r.text)).text = LineEnding.detect r.text := by
  cases h : LineEnding.detect r.text with
  | crlf => exact detect_withBody_crlf h
  | lf =>
    have htext : (r.withBody (rev.fragment r.text)).text =
        r.head ++ ((startMarker ++ rev.fragment r.text ++ endMarker) ++ r.tail) := by
      simp [Region.text]
    -- the markers and what is between them are one text without returns, in brackets
    have hbracket : (startMarker ++ rev.fragment r.text ++ endMarker).head? = some '<' := rfl
    rw [LineEnding.detect_eq_lf_iff, htext,
      LineEnding.crlf_infix_between_iff (return_notMem_region h) hbracket]
    rintro (hhead | htail | ⟨-, hfeed⟩)
    · exact LineEnding.not_infix_of_detect_lf h r.head_prefix_text.isInfix hhead
    · exact LineEnding.not_infix_of_detect_lf h r.tail_suffix_text.isInfix htail
    · exact absurd hfeed (by decide)

/-- A region that is opened in a document without two-character line endings gives it one exactly
when it is opened behind a carriage return. -/
theorem detect_opened_lf {point : InsertionPoint} {before after : Text}
    (hopening : rev.layout.opening? document = some (point, before, after))
    (h : LineEnding.detect document = .lf) :
    LineEnding.detect ((Layout.opened point before after).withBody (rev.fragment document)).text =
      if before.getLast? = some '\r' then .crlf else .lf := by
  obtain ⟨hpoint, hdocument⟩ := Layout.opening?_eq_some hopening
  rw [List.append_assoc] at hdocument
  have hbefore : ¬ LineEnding.crlf.text <:+: before :=
    LineEnding.not_infix_of_detect_lf h (hdocument ▸ (List.prefix_append _ _).isInfix)
  have hafter : ¬ LineEnding.crlf.text <:+: point.anchor ++ after :=
    LineEnding.not_infix_of_detect_lf h (hdocument ▸ (List.suffix_append _ _).isInfix)
  rw [h] at hpoint
  obtain ⟨rest, hlead, -⟩ := Layout.lead_eq hpoint
  have hblank : '\r' ∉ point.lead ∧ '\r' ∉ point.trail := Layout.return_notMem_lf hpoint
  have htext : ((Layout.opened point before after).withBody (rev.fragment document)).text =
      before ++ ((point.lead ++ (startMarker ++ rev.fragment document ++ endMarker) ++
        point.trail) ++ (point.anchor ++ after)) := by
    simp only [Region.text, Layout.opened, Region.withBody, List.append_assoc]
  -- lead, region and trail are one text without returns, and it begins with a line feed
  have hmid : '\r' ∉ point.lead ++ (startMarker ++ rev.fragment document ++ endMarker) ++
      point.trail := by
    rw [List.mem_append, List.mem_append, not_or, not_or]
    exact ⟨⟨hblank.1, return_notMem_region h⟩, hblank.2⟩
  have hfeed : (point.lead ++ (startMarker ++ rev.fragment document ++ endMarker) ++
      point.trail).head? = some '\n' := by
    rw [hlead]
    rfl
  have hcrlf : LineEnding.crlf.text <:+:
      ((Layout.opened point before after).withBody (rev.fragment document)).text ↔
        before.getLast? = some '\r' := by
    rw [htext, LineEnding.crlf_infix_between_iff hmid hfeed]
    simp only [hbefore, hafter, false_or, and_true]
  split
  next hreturn => exact LineEnding.detect_eq_crlf_iff.mpr (hcrlf.mpr hreturn)
  next hreturn => exact LineEnding.detect_eq_lf_iff.mpr fun hin => hreturn (hcrlf.mp hin)

/-- A revision keeps the line ending of a document, unless it opens a region right behind a lone
carriage return. -/
theorem detect_apply (h : rev.apply document = .ok updated) :
    LineEnding.detect updated.text =
      if rev.layout.opensAtReturn document then .crlf else LineEnding.detect document := by
  obtain ⟨r, hplace, htext, -⟩ := locate?_of_update (rev.endMarker_not_infix_fragment document) h
  rw [htext]
  rcases Layout.place_cases hplace with
    ⟨-, rfl, -⟩ | ⟨-, hnone, point, before, after, hopening, rfl⟩
  · have hmark : Text.contains startMarker r.text = true :=
      Text.contains_iff.mpr r.startMarker_infix_text
    rw [detect_withBody, Layout.opensAtReturn, hmark]
    rfl
  · have hmark : Text.contains startMarker document = false := Text.contains_eq_false_iff.mpr hnone
    cases hending : LineEnding.detect document with
    | crlf =>
      rw [detect_withBody_crlf hending]
      simp
    | lf =>
      rw [detect_opened_lf hopening hending]
      simp [Layout.opensAtReturn, hmark, hending, hopening]

/-- The same revision once more finds the region and replaces it. It leaves the text as it is
exactly when the first one did not open the region behind a lone carriage return. -/
theorem apply_apply (h : rev.apply document = .ok updated) :
    ∃ again, rev.apply updated.text = .ok ⟨again, .replaced⟩ ∧
      (again = updated.text ↔ rev.layout.opensAtReturn document = false) := by
  have hending := detect_apply h
  obtain ⟨r, -, htext, hlocated⟩ :=
    locate?_of_update (rev.endMarker_not_infix_fragment document) h
  refine ⟨(r.withBody (rev.fragment updated.text)).text, ?_, ?_⟩
  · rw [apply, htext]
    exact update_text hlocated rev.layout _
  · rw [htext, Region.text_withBody_inj, ← htext]
    -- the two fragments have the same lines, so only the line ending tells them apart
    have hfragment : rev.fragment updated.text = rev.fragment document ↔
        LineEnding.detect updated.text = LineEnding.detect document :=
      ⟨render_inj, fun heq => by rw [fragment, heq, fragment]⟩
    rw [hfragment, hending]
    cases hreturn : rev.layout.opensAtReturn document with
    | false => simp
    | true =>
      have hlf : LineEnding.detect document = .lf := by
        simp only [Layout.opensAtReturn, Bool.and_eq_true, decide_eq_true_eq] at hreturn
        exact hreturn.1.2
      simp [hlf]

/-- A revision of a document with a region exchanges the body and nothing else, and the next one
finds a document of the same kind. -/
theorem apply_text (h : r.Located) (rev : Revision) :
    rev.apply r.text = .ok ⟨(r.withBody (rev.fragment r.text)).text, .replaced⟩ ∧
      (r.withBody (rev.fragment r.text)).Located ∧
      LineEnding.detect (r.withBody (rev.fragment r.text)).text = LineEnding.detect r.text :=
  ⟨update_text h rev.layout _, h.withBody (rev.endMarker_not_infix_fragment _),
    detect_withBody rev r⟩

end Revision

/-- Revisions one after the other leave in a region what the last one renders. -/
theorem inTurn_apply (revisions : List Revision) (last : Revision) (h : r.Located) :
    inTurn ((revisions ++ [last]).map Revision.apply) r.text =
      .ok (r.withBody (last.fragment r.text)).text := by
  induction revisions generalizing r with
  | nil =>
    have hlast := (Revision.apply_text h last).1
    simp only [List.nil_append, List.map_cons, List.map_nil, inTurn, hlast]
  | cons rev revisions ih =>
    obtain ⟨hfirst, hlocated, hending⟩ := Revision.apply_text h rev
    have hfragment : last.fragment (r.withBody (rev.fragment r.text)).text =
        last.fragment r.text := by
      rw [Revision.fragment, hending, Revision.fragment]
    simp only [List.cons_append, List.map_cons, inTurn, hfirst]
    rw [ih hlocated, hfragment, Region.withBody_withBody]

/-- A document that has a region keeps no trace of earlier revisions, whatever they declared, in
whatever shape and for whatever layout:
* all of them succeed, and the text is the first one with the last fragment for its body, rendered
  with the line ending of the first text;
* the region is located in it, with the surroundings that it had;
* its line ending is the one of the first text;
* the last revision once more changes nothing. -/
theorem revisions_leave_last (revisions : List Revision) (last : Revision) (document : Text)
    (r : Region) (h : Region.locate? document = .ok (some r)) :
    let result := r.withBody (last.shape.render last.mappings (.detect document))
    inTurn ((revisions ++ [last]).map Revision.apply) document = .ok result.text ∧
      Region.locate? result.text = .ok (some result) ∧
      LineEnding.detect result.text = .detect document ∧
      last.apply result.text = .ok ⟨result.text, .replaced⟩ := by
  obtain ⟨rfl, hlocated⟩ := Region.locate?_eq_some_iff.mp h
  obtain ⟨-, hlocated', hending⟩ := Revision.apply_text hlocated last
  refine ⟨inTurn_apply revisions last hlocated, hlocated'.locate?_text, hending, ?_⟩
  have hfragment : last.fragment (r.withBody (last.fragment r.text)).text =
      last.fragment r.text := by
    rw [Revision.fragment, hending, Revision.fragment]
  have hagain := (Revision.apply_text hlocated' last).1
  rw [hfragment] at hagain
  exact hagain

/-- A region whose body alone shows two-character line endings, behind a lone carriage return. -/
def crlfInBody : Region := ⟨"<web-app>\r".toList, "\r\n".toList, "\n</web-app>".toList⟩

/-- The region is revised with the end marker for a pattern and then with a line break for a type
name. -/
theorem revisions_leave_last_crlfInBody :
    Region.locate? crlfInBody.text = .ok (some crlfInBody) ∧
      inTurn
        ([⟨.webApp, .servletMappings true, [⟨startMarker, [], [endMarker], true⟩]⟩,
          ⟨.appEngineWebApp, .systemProperties, [⟨['\n'], [], [['/']], false⟩]⟩].map Revision.apply)
        crlfInBody.text =
      .ok (crlfInBody.withBody ("\r\n        <property name=\"url:/\" value=\"&#10;\"/>".toList ++
        "\r\n        ".toList)).text := by
  have h : Region.locate? crlfInBody.text = .ok (some crlfInBody) :=
    Region.locate?_eq_some_iff.mpr ⟨rfl, by decide +kernel, by decide +kernel⟩
  refine ⟨h, (revisions_leave_last [_] _ crlfInBody.text crlfInBody h).1.trans ?_⟩
  exact congrArg (Except.ok ∘ Region.text ∘ crlfInBody.withBody) (by decide +kernel)

end ServletRoutes.Document
