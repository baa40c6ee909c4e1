import ServletRoutes.Proofs.Document.Confinement

/-!
# `ServletRoutes.Proofs.Document.Section`: the section of the region

In the application descriptor the region belongs to the section of system
properties. Where the descriptor has a section the region is opened at its end,
and where it has none the region is opened together with a section.

`updates_keep_sections` says that this is settled by the first update. The
later ones find the region and fill it, so the region stays at the end of its
section, and no update adds a section to those that the first one left:

* `inTurn_of_place`: updates one after the other leave the last fragment in the
  region that took the first one, and `exists_update_of_place` says so for each
  of them.
* `section_follows`: between the region and the end of its section stand a line
  ending and blanks.
* `occurrences_around`: around an opened region the ends of sections are those
  of the document (`occurrences_around_section`), or the one that was opened with
  it (`occurrences_around_newSection`).
-/

set_option autoImplicit false

namespace ServletRoutes.Document

variable {layout : Layout} {document body : Text} {r : Region} {action : Action}
  {needle tag x y : Text} {point : InsertionPoint} {before after : Text}

/-! ### Counting tags -/

namespace IsTag

/-- Around a seam in front of an opening bracket a tag stands as often as in both texts. -/
theorem occurrences_append_of_head (h : IsTag needle) (hy : y.head? = some '<') :
    Text.occurrences needle (x ++ y) = Text.occurrences needle x + Text.occurrences needle y :=
  Text.occurrences_append h.ne_nil (h.not_crosses_of_head hy)

/-- Around a seam behind a closing bracket a tag stands as often as in both texts. -/
theorem occurrences_append_of_getLast (h : IsTag needle) (hx : x.getLast? = some '>') :
    Text.occurrences needle (x ++ y) = Text.occurrences needle x + Text.occurrences needle y :=
  Text.occurrences_append h.ne_nil (h.not_crosses_of_getLast hx)

/-- Around a line ending a tag stands as often as in the texts before and behind it. -/
theorem occurrences_append_ending (h : IsTag needle) (ending : LineEnding) :
    Text.occurrences needle (x ++ (ending.text ++ y)) =
      Text.occurrences needle x + Text.occurrences needle y := by
  obtain ⟨hfront, hback⟩ := h.not_crosses_ending ending
  rw [Text.occurrences_append h.ne_nil hfront, Text.occurrences_append h.ne_nil hback,
    Text.occurrences_eq_zero_iff.mpr (h.not_infix_ending ending), Nat.zero_add]

/-- A tag that is neither of the markers stands in a document as often as in the parts of its
region. -/
theorem occurrences_text (h : IsTag needle) (hstart : needle ≠ startMarker)
    (hend : needle ≠ endMarker) (r : Region) :
    Text.occurrences needle r.text = Text.occurrences needle r.head +
      Text.occurrences needle r.body + Text.occurrences needle r.tail := by
  have hnostart : Text.occurrences needle startMarker = 0 :=
    Text.occurrences_eq_zero_iff.mpr ((h.infix_iff_eq isTag_startMarker).not.mpr hstart)
  have hnoend : Text.occurrences needle endMarker = 0 :=
    Text.occurrences_eq_zero_iff.mpr ((h.infix_iff_eq isTag_endMarker).not.mpr hend)
  have htext : r.text = r.head ++ (startMarker ++ (r.body ++ (endMarker ++ r.tail))) := by
    simp only [Region.text, List.append_assoc]
  rw [htext, h.occurrences_append_of_head rfl, h.occurrences_append_of_getLast (by decide),
    h.occurrences_append_of_head rfl, h.occurrences_append_of_getLast (by decide), hnostart,
    hnoend]
  omega

end IsTag

/-! ### Updates one after the other -/

/-- The region that takes the fragments is found again with each of them. -/
theorem Layout.located_of_place (hplace : layout.place document = .ok (r, action))
    (hbody : ¬ endMarker <:+: body) : (r.withBody body).Located := by
  have hhead : ¬ startMarker <:+: r.head := Layout.head_of_place hplace
  exact ⟨hhead, hbody⟩

/-- A document with a region is filled by updates one after the other, and shows the last of them. -/
theorem inTurn_of_located (h : r.Located) (layout : Layout) {fragments : List Text}
    (hfragments : ∀ fragment ∈ fragments, ¬ endMarker <:+: fragment) :
    inTurn (fragments.map (update layout)) r.text =
      .ok (r.withBody (fragments.getLastD r.body)).text := by
  induction fragments generalizing r with
  | nil => rfl
  | cons fragment fragments ih =>
    rw [List.forall_mem_cons] at hfragments
    -- the region is found again around the fragment, which does not end it
    have hrest := ih (h.withBody hfragments.1) hfragments.2
    simp only [List.map_cons, inTurn, update_text h layout fragment]
    rw [hrest, List.getLastD_cons, Region.withBody_withBody, Region.withBody_body]

/-- Updates one after the other leave the last fragment in the region that takes the first one. -/
theorem inTurn_of_place (hplace : layout.place document = .ok (r, action)) {fragments : List Text}
    (hne : fragments ≠ []) (hfragments : ∀ fragment ∈ fragments, ¬ endMarker <:+: fragment) :
    inTurn (fragments.map (update layout)) document =
      .ok (r.withBody (fragments.getLast hne)).text := by
  cases fragments with
  | nil => exact absurd rfl hne
  | cons fragment fragments =>
    rw [List.forall_mem_cons] at hfragments
    have hfirst : update layout fragment document = .ok ⟨(r.withBody fragment).text, action⟩ :=
      update_eq_ok_iff.mpr ⟨r, hplace, rfl⟩
    have hlocated : (r.withBody fragment).Located := Layout.located_of_place hplace hfragments.1
    simp only [List.map_cons, inTurn, hfirst]
    rw [inTurn_of_located hlocated layout hfragments.2, Region.withBody_withBody,
      Region.withBody_body, List.getLast_eq_getLastD]

/-- Every one of the updates succeeds, and after the first one the region is there. -/
theorem exists_update_of_place (hplace : layout.place document = .ok (r, action))
    {fragments : List Text} (hfragments : ∀ fragment ∈ fragments, ¬ endMarker <:+: fragment)
    (fragment : Text) :
    ∃ text updated, inTurn (fragments.map (update layout)) document = .ok text ∧
      update layout fragment text = .ok updated ∧
      updated.action = if fragments = [] then action else .replaced := by
  by_cases hne : fragments = []
  · subst hne
    exact ⟨document, ⟨(r.withBody fragment).text, action⟩, rfl,
      update_eq_ok_iff.mpr ⟨r, hplace, rfl⟩, rfl⟩
  · have hlocated : (r.withBody (fragments.getLast hne)).Located :=
      Layout.located_of_place hplace (hfragments _ (List.getLast_mem hne))
    exact ⟨_, _, inTurn_of_place hplace hne hfragments, update_text hlocated layout fragment,
      (if_neg hne).symm⟩

/-! ### Sections of system properties -/

/-- Ends a section of system properties. -/
def sectionEnd : Text := "</system-properties>".toList

/-- Ends the application descriptor. -/
def descriptorEnd : Text := "</appengine-web-app>".toList

theorem isTag_sectionEnd : IsTag sectionEnd :=
  (foreign_anchor (List.mem_cons_of_mem _ List.mem_cons_self)).isTag

/-- What stands between a region and the end of its section. -/
def sectionGap (ending : LineEnding) : Text := ending.text ++ List.replicate 4 ' '

/-- The place at the end of a section. -/
def atSectionEnd (ending : LineEnding) : InsertionPoint :=
  ⟨sectionEnd, ending.text ++ List.replicate 8 ' ', sectionGap ending⟩

/-- The place for a section of its own, at the end of the descriptor. -/
def inNewSection (ending : LineEnding) : InsertionPoint :=
  ⟨descriptorEnd,
    ending.text ++ "    <system-properties>".toList ++ ending.text ++ List.replicate 8 ' ',
    sectionGap ending ++ sectionEnd ++ ending.text⟩

/-- The end of a section is preferred to the end of the descriptor. -/
theorem insertionPoints_appEngineWebApp (ending : LineEnding) :
    Layout.appEngineWebApp.insertionPoints ending = [atSectionEnd ending, inNewSection ending] := by
  have hblanks : "    </system-properties>".toList = List.replicate 4 ' ' ++ sectionEnd := by
    decide
  simp only [Layout.insertionPoints, atSectionEnd, inNewSection, sectionGap, hblanks,
    List.append_assoc]
  rfl

/-- A region is opened at the end of a section, or at the end of a descriptor that has none. -/
theorem opening?_cases (h : Layout.appEngineWebApp.opening? document = some (point, before, after)) :
    point = atSectionEnd (.detect document) ∨
      (point = inNewSection (.detect document) ∧ ¬ sectionEnd <:+: document) := by
  rw [Layout.opening?, insertionPoints_appEngineWebApp, List.findSome?_cons] at h
  cases hsection : Text.cut? (atSectionEnd (.detect document)).anchor document with
  | some parts =>
    simp only [hsection, Option.map_some, Option.some.injEq, Prod.mk.injEq] at h
    exact .inl h.1.symm
  | none =>
    obtain ⟨p, hp, hcut⟩ : ∃ p ∈ [inNewSection (.detect document)],
        (Text.cut? p.anchor document).map (fun parts => (p, parts)) =
          some (point, before, after) := by
      simp only [hsection, Option.map_none] at h
      exact List.exists_of_findSome?_eq_some h
    obtain rfl := List.mem_singleton.mp hp
    obtain ⟨parts, -, heq⟩ := Option.map_eq_some_iff.mp hcut
    exact .inr ⟨(Prod.mk.inj heq).1.symm, Text.cut?_eq_none_iff.mp hsection⟩

/-- A descriptor that has a section or at least an end has a place for a region. -/
theorem exists_opening (h : sectionEnd <:+: document ∨ descriptorEnd <:+: document) :
    ∃ point before after,
      Layout.appEngineWebApp.opening? document = some (point, before, after) := by
  cases hopening : Layout.appEngineWebApp.opening? document with
  | some place => exact ⟨place.1, place.2.1, place.2.2, rfl⟩
  | none =>
    -- then neither of the two ends would be found
    rw [Layout.opening?, insertionPoints_appEngineWebApp, List.findSome?_eq_none_iff] at hopening
    have hnone (point : InsertionPoint)
        (hpoint : point ∈ [atSectionEnd (.detect document), inNewSection (.detect document)]) :
        ¬ point.anchor <:+: document := by
      have hcut := hopening point hpoint
      rw [Option.map_eq_none_iff] at hcut
      exact Text.cut?_eq_none_iff.mp hcut
    rcases h with hsection | hdescriptor
    · exact absurd hsection (hnone (atSectionEnd (.detect document)) (by simp))
    · exact absurd hdescriptor (hnone (inNewSection (.detect document)) (by simp))

/-- No section ends between a region and the end of its section. -/
theorem not_infix_sectionGap (ending : LineEnding) : ¬ sectionEnd <:+: sectionGap ending := by
  cases ending <;> decide

/-- Between a region that was opened and the end of its section stand a line ending and blanks. -/
theorem section_follows
    (h : Layout.appEngineWebApp.opening? document = some (point, before, after)) :
    ∃ rest, Text.cut? sectionEnd (Layout.opened point before after).tail =
      some (sectionGap (.detect document), rest) := by
  have hcut (rest : Text) :
      Text.cut? sectionEnd (sectionGap (.detect document) ++ sectionEnd ++ rest) =
        some (sectionGap (.detect document), rest) := by
    rw [Text.cut?_append_iff isTag_sectionEnd.ne_nil,
      isTag_sectionEnd.infix_append_dropLast isTag_sectionEnd]
    exact not_infix_sectionGap _
  rcases opening?_cases h with rfl | ⟨rfl, -⟩
  · exact ⟨after, hcut after⟩
  · refine ⟨LineEnding.text (.detect document) ++ descriptorEnd ++ after, ?_⟩
    have htail : (Layout.opened (inNewSection (.detect document)) before after).tail =
        sectionGap (.detect document) ++ sectionEnd ++
          (LineEnding.text (.detect document) ++ descriptorEnd ++ after) := by
      simp only [Layout.opened, inNewSection, List.append_assoc]
    rw [htail]
    exact hcut _

/-- At the end of a section one section ends, and then those that end behind it. -/
theorem occurrences_sectionEnd_append (t : Text) :
    Text.occurrences sectionEnd (sectionEnd ++ t) = 1 + Text.occurrences sectionEnd t := by
  have hone : Text.occurrences sectionEnd sectionEnd = 1 := by decide
  rw [isTag_sectionEnd.occurrences_append_of_getLast (by decide), hone]

/-- In front of a bracket no section ends within the gap. -/
theorem occurrences_sectionGap_append (ending : LineEnding) {t : Text} (ht : t.head? = some '<') :
    Text.occurrences sectionEnd (sectionGap ending ++ t) = Text.occurrences sectionEnd t := by
  rw [isTag_sectionEnd.occurrences_append_of_head ht,
    Text.occurrences_eq_zero_iff.mpr (not_infix_sectionGap ending), Nat.zero_add]

/-- Behind the last line ending before a region no section ends. -/
theorem occurrences_append_lead (ending : LineEnding) (x : Text) {y : Text}
    (hy : ¬ sectionEnd <:+: y) :
    Text.occurrences sectionEnd (x ++ (ending.text ++ y)) = Text.occurrences sectionEnd x := by
  rw [isTag_sectionEnd.occurrences_append_ending, Text.occurrences_eq_zero_iff.mpr hy, Nat.add_zero]

/-- Around a region at the end of a section sections end where they did before. -/
theorem occurrences_around_section (ending : LineEnding) (before after : Text) :
    Text.occurrences sectionEnd (Layout.opened (atSectionEnd ending) before after).head +
        Text.occurrences sectionEnd (Layout.opened (atSectionEnd ending) before after).tail =
      Text.occurrences sectionEnd (before ++ (sectionEnd ++ after)) := by
  have hhead : Text.occurrences sectionEnd
      (Layout.opened (atSectionEnd ending) before after).head =
        Text.occurrences sectionEnd before :=
    occurrences_append_lead ending before (by decide)
  have htail : Text.occurrences sectionEnd
      (Layout.opened (atSectionEnd ending) before after).tail =
        Text.occurrences sectionEnd (sectionEnd ++ after) := by
    show Text.occurrences sectionEnd (sectionGap ending ++ sectionEnd ++ after) = _
    rw [List.append_assoc, occurrences_sectionGap_append ending rfl]
  rw [hhead, htail]
  exact (isTag_sectionEnd.occurrences_append_of_head rfl).symm

/-- Around a region in a section of its own one section ends, if none did before. -/
theorem occurrences_around_newSection (ending : LineEnding) (hbefore : ¬ sectionEnd <:+: before)
    (hafter : ¬ sectionEnd <:+: descriptorEnd ++ after) :
    Text.occurrences sectionEnd (Layout.opened (inNewSection ending) before after).head +
      Text.occurrences sectionEnd (Layout.opened (inNewSection ending) before after).tail = 1 := by
  have hhead : (Layout.opened (inNewSection ending) before after).head =
      before ++ (ending.text ++ ("    <system-properties>".toList ++ ending.text ++
        List.replicate 8 ' ')) := by
    simp only [Layout.opened, inNewSection, List.append_assoc]
  have htail : (Layout.opened (inNewSection ending) before after).tail =
      sectionGap ending ++ (sectionEnd ++ (ending.text ++ (descriptorEnd ++ after))) := by
    simp only [Layout.opened, inNewSection, List.append_assoc]
  -- the section begins before the region, which ends none
  have hbegins : ¬ sectionEnd <:+: "    <system-properties>".toList ++ ending.text ++
      List.replicate 8 ' ' := by
    cases ending <;> decide
  have hrest : ¬ sectionEnd <:+: ending.text ++ (descriptorEnd ++ after) := by
    have hseam := isTag_sectionEnd.infix_append_ending (x := []) (y := descriptorEnd ++ after) ending
    rw [List.nil_append] at hseam
    simpa [hafter, isTag_sectionEnd.ne_nil] using hseam
  rw [hhead, htail, occurrences_append_lead ending before hbegins,
    Text.occurrences_eq_zero_iff.mpr hbefore, Nat.zero_add, occurrences_sectionGap_append ending rfl,
    occurrences_sectionEnd_append, Text.occurrences_eq_zero_iff.mpr hrest]

/-- Around a region that was opened sections end where they did before, or at the one place where a
section was opened with the region. -/
theorem occurrences_around
    (h : Layout.appEngineWebApp.opening? document = some (point, before, after)) :
    Text.occurrences sectionEnd (Layout.opened point before after).head +
        Text.occurrences sectionEnd (Layout.opened point before after).tail =
      max 1 (Text.occurrences sectionEnd document) := by
  obtain ⟨-, hdocument⟩ := Layout.opening?_eq_some h
  rw [List.append_assoc] at hdocument
  rcases opening?_cases h with rfl | ⟨rfl, hnone⟩
  · -- the document has at least the section at whose end the region is opened
    have hall : document = before ++ (sectionEnd ++ after) := hdocument
    have hone : 1 ≤ Text.occurrences sectionEnd document := by
      rw [hall, isTag_sectionEnd.occurrences_append_of_head rfl, occurrences_sectionEnd_append]
      omega
    rw [occurrences_around_section, ← hall, Nat.max_eq_right hone]
  -- there is no section, and the region brings one
  · have hall : document = before ++ (descriptorEnd ++ after) := hdocument
    have hfront : before <:+: document := by
      rw [hall]
      exact (List.prefix_append _ _).isInfix
    have hback : descriptorEnd ++ after <:+: document := by
      rw [hall]
      exact (List.suffix_append _ _).isInfix
    rw [occurrences_around_newSection _ (fun hin => hnone (hin.trans hfront))
      (fun hin => hnone (hin.trans hback)), Text.occurrences_eq_zero_iff.mpr hnone]
    rfl

/-- Updates of an application descriptor that has no region yet, with fragments that end neither the
region nor a section. For a document that has a section or at least an end,
* every update succeeds, the first one opens the region and the others find it;
* without the block that was opened for the region the document is what it was before;
* the region is located with the last fragment in it, and only a line ending and blanks stand between
  it and the end of its section;
* the sections are those that the document had, or the one that was opened. -/
theorem updates_keep_sections (document : Text) (fragments : List Text) (hne : fragments ≠ [])
    (hmarker : ¬ startMarker <:+: document)
    (hends : sectionEnd <:+: document ∨ descriptorEnd <:+: document)
    (hfragments : ∀ fragment ∈ fragments, ¬ endMarker <:+: fragment ∧ ¬ sectionEnd <:+: fragment) :
    (∀ first fragment rest, fragments = first ++ fragment :: rest → ∃ text updated,
      inTurn (first.map (update .appEngineWebApp)) document = .ok text ∧
        update .appEngineWebApp fragment text = .ok updated ∧
        updated.action = if first = [] then .inserted else .replaced) ∧
    ∃ point ∈ Layout.appEngineWebApp.insertionPoints (.detect document), ∃ before after,
      let last := fragments.getLast hne
      let block := point.lead ++ startMarker ++ last ++ endMarker ++ point.trail
      let result := before ++ block ++ (point.anchor ++ after)
      inTurn (fragments.map (update .appEngineWebApp)) document = .ok result ∧
        document = before ++ (point.anchor ++ after) ∧
        (∃ r, Region.locate? result = .ok (some r) ∧ r.body = last ∧ ∃ behind,
          Text.cut? sectionEnd r.tail = some (sectionGap (.detect document), behind)) ∧
        Text.occurrences sectionEnd result = max 1 (Text.occurrences sectionEnd document) := by
  obtain ⟨point, before, after, hopening⟩ := exists_opening hends
  obtain ⟨hpoint, hdocument⟩ := Layout.opening?_eq_some hopening
  have hplace : Layout.appEngineWebApp.place document =
      .ok (Layout.opened point before after, .inserted) := by
    rw [Layout.place, Region.locate?_eq_none_iff.mpr hmarker, hopening]
  have hcloses : ∀ fragment ∈ fragments, ¬ endMarker <:+: fragment :=
    fun fragment hfragment => (hfragments fragment hfragment).1
  -- the place is found once; each step only changes what stands in it
  constructor
  · rintro first fragment rest rfl
    exact exists_update_of_place hplace
      (fun f hf => hcloses f (List.mem_append_left _ hf)) fragment
  · refine ⟨point, hpoint, before, after, ?_⟩
    intro last block result
    have hlast : last ∈ fragments := List.getLast_mem hne
    have hresult : ((Layout.opened point before after).withBody last).text = result := by
      simp only [Region.text, Layout.opened, Region.withBody, result, block, List.append_assoc]
    have hlocated : ((Layout.opened point before after).withBody last).Located :=
      Layout.located_of_place hplace (hcloses last hlast)
    obtain ⟨behind, hbehind⟩ := section_follows hopening
    refine ⟨?_, by rw [hdocument, List.append_assoc],
      ⟨(Layout.opened point before after).withBody last, ?_, rfl, behind, hbehind⟩, ?_⟩
    · rw [inTurn_of_place hplace hne hcloses, hresult]
    · rw [← hresult]
      exact hlocated.locate?_text
    -- the body has no end of a section, so those around it are counted
    · rw [← hresult, isTag_sectionEnd.occurrences_text (by decide) (by decide),
        Region.withBody_body, Text.occurrences_eq_zero_iff.mpr (hfragments last hlast).2,
        Nat.add_zero]
      exact occurrences_around hopening

/-- An application descriptor without a section of system properties. -/
def bareDescriptor : Text := "<appengine-web-app>\r\n</appengine-web-app>".toList

/-- Its region is opened with a start marker for its body and filled once more. The document ends with
one section. -/
theorem updates_keep_sections_bare :
    ¬ startMarker <:+: bareDescriptor ∧ descriptorEnd <:+: bareDescriptor ∧
      Text.occurrences sectionEnd bareDescriptor = 0 ∧
      ∃ result, inTurn ([startMarker, ['é']].map (update .appEngineWebApp)) bareDescriptor =
          .ok result ∧
        (∃ r, Region.locate? result = .ok (some r) ∧ r.body = ['é']) ∧
        Text.occurrences sectionEnd result = 1 := by
  have hmarker : ¬ startMarker <:+: bareDescriptor := by decide
  have hends : descriptorEnd <:+: bareDescriptor := by decide
  have hnone : Text.occurrences sectionEnd bareDescriptor = 0 := by decide
  have hfragments : ∀ fragment ∈ [startMarker, ['é']],
      ¬ endMarker <:+: fragment ∧ ¬ sectionEnd <:+: fragment := by decide
  obtain ⟨-, point, -, before, after, hresult, -, ⟨r, hlocate, hbody, -⟩, hsections⟩ :=
    updates_keep_sections bareDescriptor [startMarker, ['é']] (by simp) hmarker (.inr hends)
      hfragments
  rw [hnone] at hsections
  exact ⟨hmarker, hends, hnone, _, hresult, ⟨r, hlocate, hbody⟩, hsections⟩

end ServletRoutes.Document
