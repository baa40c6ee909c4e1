import ServletRoutes.Proofs.Document.Region
import ServletRoutes.Proofs.Outcome

/-!
# `ServletRoutes.Proofs.Document.Update`: an update owns its region and nothing else

Where a fragment goes does not depend on the fragment: `Layout.place` finds
the region of a document, or opens an empty one, and `update_eq` says that an
update exchanges the body there. `Layout.place_cases` lists what can happen.

`update_lens_laws` puts it together. The region of an updated document is
located, its body is the fragment, a further update gives what it would have
given on the first document, and putting a body back changes nothing.
-/

set_option autoImplicit false

namespace ServletRoutes.Document

variable {layout : Layout} {document fragment : Text} {r : Region} {action : Action}

namespace Layout

/-- The first insertion point whose anchor occurs, with the text before and after the anchor. -/
def opening? (layout : Layout) (document : Text) : Option (InsertionPoint × Text × Text) :=
  (layout.insertionPoints (.detect document)).findSome? fun point =>
    (Text.cut? point.anchor document).map fun parts => (point, parts)

/-- The empty region that is opened at an insertion point, between the texts around its anchor. -/
def opened (point : InsertionPoint) (before after : Text) : Region :=
  ⟨before ++ point.lead, [], point.trail ++ point.anchor ++ after⟩

/-- The region that takes a document's fragments, and what an update does there: the region that
the document has, or an empty one at the first insertion point whose anchor occurs. -/
def place (layout : Layout) (document : Text) : Except Fault (Region × Action) :=
  match Region.locate? document with
  | .error fault => .error fault
  | .ok (some region) => .ok (region, .replaced)
  | .ok none =>
    match layout.opening? document with
    | some (point, before, after) => .ok (opened point before after, .inserted)
    | none => .error (.anchorMissing ((layout.insertionPoints (.detect document)).map (·.anchor)))

/-- Opening a region with a body is filling the opened one. -/
theorem findSome?_openAt? (layout : Layout) (document body : Text) :
    ((layout.insertionPoints (.detect document)).findSome? fun point =>
        openAt? point document body) =
      (layout.opening? document).map fun (point, before, after) =>
        (opened point before after).withBody body := by
  rw [opening?, List.map_findSome?]
  refine congrArg (fun f => List.findSome? f _) (funext fun point => ?_)
  simp only [Function.comp_apply, Option.map_map, openAt?]
  rfl

/-- A document with a region keeps it. -/
theorem place_text (h : r.Located) : layout.place r.text = .ok (r, .replaced) := by
  rw [place, h.locate?_text]

/-- A document either has the region that takes its fragments, or has no start marker and gets one
at the first insertion point whose anchor occurs. -/
theorem place_cases (h : layout.place document = .ok (r, action)) :
    (action = .replaced ∧ document = r.text ∧ r.Located) ∨
      (action = .inserted ∧ ¬ startMarker <:+: document ∧ ∃ point before after,
        layout.opening? document = some (point, before, after) ∧ r = opened point before after) := by
  unfold place at h
  split at h
  · simp at h
  next region hlocate =>
    simp only [Except.ok.injEq, Prod.mk.injEq] at h
    obtain ⟨rfl, rfl⟩ := h
    exact .inl ⟨rfl, Region.locate?_eq_some_iff.mp hlocate⟩
  next hlocate =>
    split at h
    next point before after hopening =>
      simp only [Except.ok.injEq, Prod.mk.injEq] at h
      obtain ⟨rfl, rfl⟩ := h
      exact .inr ⟨rfl, Region.locate?_eq_none_iff.mp hlocate, point, before, after, hopening, rfl⟩
    · simp at h

/-- The anchor of the opening stands in the document, between the texts around it. -/
theorem opening?_eq_some {point : InsertionPoint} {before after : Text}
    (h : layout.opening? document = some (point, before, after)) :
    point ∈ layout.insertionPoints (.detect document) ∧
      document = before ++ point.anchor ++ after := by
  obtain ⟨p, hp, hcut⟩ := List.exists_of_findSome?_eq_some h
  obtain ⟨parts, hcut, heq⟩ := Option.map_eq_some_iff.mp hcut
  simp only [Prod.mk.injEq] at heq
  obtain ⟨rfl, rfl⟩ := heq
  exact ⟨hp, Text.cut?_eq_some hcut⟩

/-- The lead of an insertion point is a line ending and a text without a start marker. -/
theorem lead_eq {point : InsertionPoint} {ending : LineEnding}
    (h : point ∈ layout.insertionPoints ending) :
    ∃ rest, point.lead = ending.text ++ rest ∧ ¬ startMarker <:+: rest := by
  cases layout with
  | webApp =>
    obtain rfl := List.mem_singleton.mp h
    exact ⟨List.replicate 4 ' ', rfl, by decide⟩
  | appEngineWebApp =>
    simp only [insertionPoints, List.mem_cons, List.not_mem_nil, or_false] at h
    rcases h with rfl | rfl
    · exact ⟨List.replicate 8 ' ', rfl, by decide⟩
    · refine ⟨"    <system-properties>".toList ++ ending.text ++ List.replicate 8 ' ', ?_, ?_⟩
      · simp only [List.append_assoc]
      · cases ending <;> decide

/-- With one-character line endings no carriage return is put around a region. -/
theorem return_notMem_lf {point : InsertionPoint} (h : point ∈ layout.insertionPoints .lf) :
    '\r' ∉ point.lead ∧ '\r' ∉ point.trail := by
  cases layout <;> revert point <;> decide

/-- No start marker comes before the region that takes the fragments. -/
theorem head_of_place (h : layout.place document = .ok (r, action)) :
    ¬ startMarker <:+: r.head := by
  rcases place_cases h with ⟨-, -, hlocated⟩ | ⟨-, hnone, point, before, after, hopening, rfl⟩
  · exact hlocated.head
  · obtain ⟨hpoint, hdocument⟩ := opening?_eq_some hopening
    obtain ⟨rest, hlead, hrest⟩ := lead_eq hpoint
    -- the line ending of the lead keeps a marker from arising across the seam
    rw [opened, hlead, isTag_startMarker.infix_append_ending, not_or]
    refine ⟨fun hbefore => hnone ?_, hrest⟩
    rw [hdocument, List.append_assoc]
    exact hbefore.trans (List.prefix_append _ _).isInfix

end Layout

/-- An update exchanges the body of the region that takes the fragments. -/
theorem update_eq (layout : Layout) (fragment document : Text) :
    update layout fragment document =
      (layout.place document).map fun p => ⟨(p.1.withBody fragment).text, p.2⟩ := by
  cases hlocate : Region.locate? document with
  | error fault => simp only [update, Layout.place, hlocate, Except.map]
  | ok located =>
    cases located with
    | some region => simp only [update, Layout.place, hlocate, Except.map]
    | none =>
      simp only [update, Layout.place, hlocate, Layout.findSome?_openAt?]
      cases layout.opening? document <;> rfl

/-- An update succeeds exactly where there is a place for the fragment. -/
theorem update_eq_ok_iff {updated : Updated} :
    update layout fragment document = .ok updated ↔
      ∃ r, layout.place document = .ok (r, updated.action) ∧
        updated.text = (r.withBody fragment).text := by
  rw [update_eq, map_eq_ok_iff]
  constructor
  · rintro ⟨⟨r, action⟩, hplace, rfl⟩
    exact ⟨r, hplace, rfl⟩
  · rintro ⟨r, hplace, htext⟩
    exact ⟨(r, updated.action), hplace, by rw [← htext]⟩

/-- An updated document has the region that takes the fragments, with the fragment in it. -/
theorem locate?_of_update {updated : Updated} (hfragment : ¬ endMarker <:+: fragment)
    (h : update layout fragment document = .ok updated) :
    ∃ r, layout.place document = .ok (r, updated.action) ∧
      updated.text = (r.withBody fragment).text ∧ (r.withBody fragment).Located := by
  obtain ⟨r, hplace, htext⟩ := update_eq_ok_iff.mp h
  have hhead : ¬ startMarker <:+: r.head := Layout.head_of_place hplace
  exact ⟨r, hplace, htext, hhead, hfragment⟩

/-- A document with a region takes every fragment there. -/
theorem update_text (h : r.Located) (layout : Layout) (fragment : Text) :
    update layout fragment r.text = .ok ⟨(r.withBody fragment).text, .replaced⟩ := by
  rw [update_eq, Layout.place_text h]
  rfl

/-- Carries out updates one after the other, each on the text that the one before left. -/
def inTurn : List (Text → Except Fault Updated) → Text → Except Fault Text
  | [], document => .ok document
  | step :: steps, document =>
    match step document with
    | .error fault => .error fault
    | .ok updated => inTurn steps updated.text

/-- The laws of an owned region. After an update with a fragment that does not close the region,
* the region is located, its body is the fragment, and so are the bytes between its offsets;
* another update, even for another layout, gives the text that it gives on the first document;
* putting the body of a document's region back gives the document;
* the same update any number of times gives what it gives once. -/
theorem update_lens_laws (document fragment other : Text) (layout layout' : Layout)
    (hfragment : ¬ endMarker <:+: fragment) {updated : Updated}
    (h : update layout fragment document = .ok updated) :
    (∃ r, Region.locate? updated.text = .ok (some r) ∧ r.body = fragment ∧
        (Text.Utf8.encode updated.text).extract r.bodyStart r.bodyEnd =
          Text.Utf8.encode fragment) ∧
      (∃ fresh, update layout other document = .ok fresh ∧
        update layout' other updated.text = .ok ⟨fresh.text, .replaced⟩) ∧
      (∀ r, Region.locate? document = .ok (some r) →
        update layout r.body document = .ok ⟨document, .replaced⟩) ∧
      ∀ times, inTurn (List.replicate (times + 1) (update layout fragment)) document =
        .ok updated.text := by
  obtain ⟨r, hplace, htext, hlocated⟩ := locate?_of_update hfragment h
  refine ⟨⟨r.withBody fragment, ?_, rfl, ?_⟩, ⟨⟨(r.withBody other).text, updated.action⟩, ?_, ?_⟩,
    ?_, ?_⟩
  · rw [htext]
    exact hlocated.locate?_text
  · rw [htext]
    exact Region.extract_body (r.withBody fragment)
  · exact update_eq_ok_iff.mpr ⟨r, hplace, rfl⟩
  · rw [htext]
    exact update_text hlocated layout' other
  · intro own hown
    obtain ⟨rfl, hlocated'⟩ := Region.locate?_eq_some_iff.mp hown
    exact update_text hlocated' layout own.body
  · -- every update after the first finds the fragment in its place
    have hagain : update layout fragment updated.text = .ok ⟨updated.text, .replaced⟩ := by
      rw [htext]
      exact update_text hlocated layout fragment
    have hrest (times : Nat) :
        inTurn (List.replicate times (update layout fragment)) updated.text =
          .ok updated.text := by
      induction times with
      | zero => rfl
      | succ times ih => simp only [List.replicate_succ, inTurn, hagain, ih]
    intro times
    simp only [List.replicate_succ, inTurn, h, hrest]

/-- A region with the start marker for its body, behind a stray end marker. -/
def strayMarkers : Region := ⟨endMarker ++ "é\n    ".toList, startMarker, "\n</web-app>".toList⟩

/-- The region is opened in a document with a stray end marker. The other fragment closes the region
before its end. -/
theorem update_lens_laws_strayMarkers :
    ¬ endMarker <:+: startMarker ∧
      update .webApp startMarker (endMarker ++ "é</web-app>".toList) =
        .ok ⟨strayMarkers.text, .inserted⟩ ∧
      (∃ r, Region.locate? strayMarkers.text = .ok (some r) ∧ r.body = startMarker ∧
        (Text.Utf8.encode strayMarkers.text).extract r.bodyStart r.bodyEnd =
          Text.Utf8.encode startMarker) ∧
      (∃ fresh, update .webApp endMarker (endMarker ++ "é</web-app>".toList) = .ok fresh ∧
        update .appEngineWebApp endMarker strayMarkers.text = .ok ⟨fresh.text, .replaced⟩) ∧
      ∀ times, inTurn (List.replicate (times + 1) (update .webApp startMarker))
          (endMarker ++ "é</web-app>".toList) = .ok strayMarkers.text := by
  have hfragment : ¬ endMarker <:+: startMarker := by decide +kernel
  have h : update .webApp startMarker (endMarker ++ "é</web-app>".toList) =
      .ok ⟨strayMarkers.text, .inserted⟩ := eq_ok_of_toOption (by decide +kernel)
  obtain ⟨hlocated, hagain, -, htimes⟩ :=
    update_lens_laws _ _ endMarker .webApp .appEngineWebApp hfragment h
  exact ⟨hfragment, h, hlocated, hagain, htimes⟩

end ServletRoutes.Document
