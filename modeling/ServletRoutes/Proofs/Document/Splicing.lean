import ServletRoutes.Document.Splicing
import ServletRoutes.Proofs.Document.Update
import ServletRoutes.Proofs.Text.Slice

/-!
# `ServletRoutes.Proofs.Document.Splicing`: when an update succeeds, and where

`splice?` updates a document by the offsets that a search among its bytes
comes upon. It is the same update as the one by the parts of the document
(`splice?_encode`), so no document is ever cut within a code point.

`splices_of_splice?` is what the update by offsets comes to: one constructor of
`Splices` for each outcome, with the kind of documents that have it. The kinds
exclude each other, which turns them into conditions:

* `update_unterminated_iff` / `update_anchorMissing_iff`: when an update fails.
* `bodyBetween_of_regionAt?`: where the body of a region stands.
* `update_decided_by`: all of it, for every document, fragment and layout.
-/

set_option autoImplicit false

namespace ServletRoutes.Document

open Text (byteSize)
open Text.Utf8 (encode find? slice? isBoundary StandsAt FirstFrom)

variable {layout : Layout} {document fragment bytes : Bytes} {text : Text}

/-! ### The same update -/

/-- The offsets that the search comes upon are those of the located region. -/
theorem regionAt?_encode (t : Text) :
    regionAt? (encode t) = some ((Region.locate? t).map fun located =>
      located.map fun r => (r.bodyStart, r.bodyEnd)) := by
  rw [regionAt?, Text.Utf8.find?_encode, Region.locate?]
  cases hstart : Text.cut? startMarker t with
  | none => rfl
  | some parts =>
    obtain ⟨head, rest⟩ := parts
    obtain rfl := Text.cut?_eq_some hstart
    have hoffset : byteSize head + (encode startMarker).length = byteSize (head ++ startMarker) := by
      rw [Text.length_encode, Text.byteSize_append]
    simp only [Option.map_some, hoffset, Text.Utf8.slice?_encode_back, Option.bind_eq_bind,
      Option.bind_some, Text.Utf8.find?_encode]
    cases hend : Text.cut? endMarker rest with
    | none => rfl
    | some parts =>
      obtain ⟨body, tail⟩ := parts
      simp only [Option.map_some, Except.map, Region.bodyStart, Region.bodyEnd,
        Text.byteSize_append]

/-- The line ending that is found among the bytes is that of the document. -/
theorem endingOf_encode (t : Text) : endingOf (encode t) = .detect t := by
  rw [endingOf, Text.Utf8.find?_encode, Option.isSome_map]
  rfl

/-- The anchor that is found among the bytes is that of the opening. -/
theorem openingAt?_encode (layout : Layout) (t : Text) :
    openingAt? (layout.insertionPoints (.detect t)) (encode t) =
      (layout.opening? t).map fun place => (place.1, byteSize place.2.1) := by
  rw [openingAt?, Layout.opening?, List.map_findSome?]
  refine congrArg (fun f => List.findSome? f _) (funext fun point => ?_)
  rw [Text.Utf8.find?_encode, Function.comp_apply, Option.map_map, Option.map_map]
  rfl

/-- Updates by offsets are those by the parts of a document. -/
theorem splice?_encode (layout : Layout) (fragment t : Text) :
    splice? layout (encode fragment) (encode t) =
      some ((update layout fragment t).map fun updated => (encode updated.text, updated.action)) := by
  rw [update_eq, splice?, regionAt?_encode, Layout.place]
  cases hlocate : Region.locate? t with
  | error fault => rfl
  | ok located =>
    cases located with
    | some r =>
      obtain rfl := Region.text_of_locate? hlocate
      -- the region is cut out by its own offsets
      have hhead : slice? (encode r.text) 0 r.bodyStart = some (encode (r.head ++ startMarker)) := by
        rw [Region.text, List.append_assoc, List.append_assoc, Region.bodyStart]
        exact Text.Utf8.slice?_encode_front _ _
      have htail : slice? (encode r.text) r.bodyEnd (encode r.text).length =
          some (encode (endMarker ++ r.tail)) := by
        rw [Region.text, List.append_assoc _ endMarker, Region.bodyEnd]
        exact Text.Utf8.slice?_encode_back _ _
      simp only [Except.map, Option.map_some, Option.bind_eq_bind, Option.bind_some, hhead, htail]
      simp only [Region.text, Region.withBody, Text.encode_append, List.append_assoc]
    | none =>
      simp only [Except.map, Option.map_none, Option.bind_eq_bind, Option.bind_some,
        endingOf_encode, openingAt?_encode]
      cases hopening : layout.opening? t with
      | none => rfl
      | some place =>
        -- the text is cut in two where the anchor begins
        obtain ⟨point, before, after⟩ := place
        obtain ⟨-, ht⟩ := Layout.opening?_eq_some hopening
        rw [List.append_assoc] at ht
        have hfront : slice? (encode t) 0 (byteSize before) = some (encode before) := by
          rw [ht]
          exact Text.Utf8.slice?_encode_front _ _
        have hback : slice? (encode t) (byteSize before) (encode t).length =
            some (encode (point.anchor ++ after)) := by
          rw [ht]
          exact Text.Utf8.slice?_encode_back _ _
        simp only [Option.map_some, hfront, hback, Option.bind_some]
        simp only [wrapped, Region.text, Layout.opened, Region.withBody, Text.encode_append,
          List.append_assoc]

/-! ### When an update succeeds -/

/-- A start marker stands in the document. -/
def Marked (bytes : Bytes) : Prop := ∃ k, StandsAt (encode startMarker) bytes k

/-- No end marker stands behind the first start marker. -/
def Unclosed (bytes : Bytes) : Prop :=
  ∃ start, FirstFrom 0 (encode startMarker) bytes start ∧
    ∀ k, start + (encode startMarker).length ≤ k → ¬ StandsAt (encode endMarker) bytes k

/-- The texts before which a layout puts a region, the preferred one first. -/
def Layout.anchors (layout : Layout) : List Text := (layout.insertionPoints .lf).map (·.anchor)

/-- Neither a start marker nor an anchor of the layout stands in the document. -/
def Placeless (layout : Layout) (bytes : Bytes) : Prop :=
  ¬ Marked bytes ∧ ∀ anchor ∈ layout.anchors, ∀ k, ¬ StandsAt (encode anchor) bytes k

/-- Between these offsets stands the body of the region: behind the first start marker, and in front of
the first end marker behind that. -/
structure BodyBetween (bytes : Bytes) (bodyStart bodyEnd : Nat) : Prop where
  ordered : bodyStart ≤ bodyEnd
  inside : bodyEnd ≤ bytes.length
  startBoundary : isBoundary bytes bodyStart = true
  endBoundary : isBoundary bytes bodyEnd = true
  opens : ∃ start, FirstFrom 0 (encode startMarker) bytes start ∧
    bodyStart = start + (encode startMarker).length
  closes : FirstFrom bodyStart (encode endMarker) bytes bodyEnd

/-- The point is the first one whose anchor stands in the document, and there the anchor first stands at
the offset. -/
structure OpensAt (points : List InsertionPoint) (bytes : Bytes) (point : InsertionPoint)
    (offset : Nat) : Prop where
  preferred : ∃ others rest, points = others ++ point :: rest ∧
    ∀ other ∈ others, ∀ k, ¬ StandsAt (encode other.anchor) bytes k
  first : FirstFrom 0 (encode point.anchor) bytes offset

/-- What can become of an update by offsets. -/
inductive Splices (layout : Layout) (fragment bytes : Bytes) : Except Fault (Bytes × Action) → Prop
  | unclosed (h : Unclosed bytes) : Splices layout fragment bytes (.error .unterminated)
  | placeless (h : Placeless layout bytes) :
    Splices layout fragment bytes (.error (.anchorMissing layout.anchors))
  | replaced {bodyStart bodyEnd : Nat} (h : BodyBetween bytes bodyStart bodyEnd) :
    Splices layout fragment bytes
      (.ok (bytes.take bodyStart ++ fragment ++ bytes.drop bodyEnd, .replaced))
  | inserted {point : InsertionPoint} {offset : Nat} (hmarker : ¬ Marked bytes)
    (h : OpensAt (layout.insertionPoints (endingOf bytes)) bytes point offset) :
    Splices layout fragment bytes
      (.ok (bytes.take offset ++ wrapped point fragment ++ bytes.drop offset, .inserted))

/-- The anchors of a layout do not depend on the line ending. -/
theorem Layout.map_anchor_insertionPoints (layout : Layout) (ending : LineEnding) :
    (layout.insertionPoints ending).map (·.anchor) = layout.anchors := by
  cases layout <;> rfl

/-- The anchor of an insertion point is one of the layout's. -/
theorem Layout.anchor_mem {point : InsertionPoint} {ending : LineEnding}
    (h : point ∈ layout.insertionPoints ending) : point.anchor ∈ layout.anchors := by
  rw [← layout.map_anchor_insertionPoints ending]
  exact List.mem_map_of_mem h

/-- Every anchor has bytes. -/
theorem Layout.encode_anchor_ne_nil {anchor : Text} (h : anchor ∈ layout.anchors) :
    encode anchor ≠ [] := by
  have hne : ∀ anchor ∈ layout.anchors, anchor ≠ [] := by cases layout <;> decide
  exact Text.Utf8.encode_ne_nil (hne anchor h)

/-- What the search for the region comes upon: nothing, a start marker only, or the first markers. -/
theorem regionAt?_cases {located : Except Fault (Option (Nat × Nat))}
    (h : regionAt? bytes = some located) :
    (located = .ok none ∧ ¬ Marked bytes) ∨
      (located = .error .unterminated ∧ Unclosed bytes) ∨
      ∃ start bodyEnd, located = .ok (some (start + (encode startMarker).length, bodyEnd)) ∧
        FirstFrom 0 (encode startMarker) bytes start ∧
        FirstFrom (start + (encode startMarker).length) (encode endMarker) bytes bodyEnd := by
  have hopens : encode startMarker ≠ [] := Text.Utf8.encode_ne_nil isTag_startMarker.ne_nil
  have hcloses : encode endMarker ≠ [] := Text.Utf8.encode_ne_nil isTag_endMarker.ne_nil
  rw [regionAt?] at h
  cases hstart : find? (encode startMarker) bytes with
  | none =>
    rw [hstart] at h
    obtain rfl := Option.some.inj h
    rw [Text.Utf8.find?_eq_none_iff hopens] at hstart
    exact .inl ⟨rfl, fun ⟨k, hk⟩ => hstart k hk⟩
  | some start =>
    have hfirst := (Text.Utf8.find?_eq_some_iff hopens).mp hstart
    simp only [hstart, Option.bind_eq_bind, Option.bind_eq_some_iff] at h
    obtain ⟨rest, hrest, h⟩ := h
    obtain rfl := Text.Utf8.eq_drop_of_slice? hrest
    cases hend : find? (encode endMarker)
        (bytes.drop (start + (encode startMarker).length)) with
    | none =>
      -- the search went on behind the start marker, so no end marker stands there
      rw [hend] at h
      obtain rfl := Option.some.inj h
      rw [Text.Utf8.find?_eq_none_iff hcloses] at hend
      refine .inr (.inl ⟨rfl, start, hfirst, fun k hk hstands => ?_⟩)
      obtain ⟨j, rfl⟩ := Nat.exists_eq_add_of_le hk
      exact hend j ((Text.Utf8.standsAt_drop ..).mpr hstands)
    | some offset =>
      rw [hend] at h
      obtain rfl := Option.some.inj h
      rw [Text.Utf8.find?_eq_some_iff hcloses, Text.Utf8.firstFrom_drop_iff] at hend
      exact .inr (.inr ⟨start, _, rfl, hfirst, hend⟩)

/-- What the search for a place comes upon is the first anchor that stands in the document. -/
theorem opensAt_of_openingAt? {point : InsertionPoint} {offset : Nat} {ending : LineEnding}
    (h : openingAt? (layout.insertionPoints ending) bytes = some (point, offset)) :
    OpensAt (layout.insertionPoints ending) bytes point offset := by
  obtain ⟨others, p, rest, hpoints, hfound, hothers⟩ := List.findSome?_eq_some_iff.mp h
  obtain ⟨k, hk, heq⟩ := Option.map_eq_some_iff.mp hfound
  simp only [Prod.mk.injEq] at heq
  obtain ⟨rfl, rfl⟩ := heq
  have hne {other : InsertionPoint} (hother : other ∈ others ++ p :: rest) :
      encode other.anchor ≠ [] :=
    Layout.encode_anchor_ne_nil (Layout.anchor_mem (hpoints ▸ hother))
  constructor
  · refine ⟨others, rest, hpoints, fun other hother => ?_⟩
    have hnone := hothers other hother
    rwa [Option.map_eq_none_iff,
      Text.Utf8.find?_eq_none_iff (hne (List.mem_append_left _ hother))] at hnone
  · exact (Text.Utf8.find?_eq_some_iff (hne (by simp))).mp hk

/-- Where the search for a place comes upon nothing, no anchor stands in the document. -/
theorem not_standsAt_of_openingAt? {ending : LineEnding}
    (h : openingAt? (layout.insertionPoints ending) bytes = none) :
    ∀ anchor ∈ layout.anchors, ∀ k, ¬ StandsAt (encode anchor) bytes k := by
  intro anchor hanchor
  have hne := Layout.encode_anchor_ne_nil hanchor
  rw [← layout.map_anchor_insertionPoints ending] at hanchor
  obtain ⟨point, hpoint, rfl⟩ := List.mem_map.mp hanchor
  have hnone := List.findSome?_eq_none_iff.mp h point hpoint
  rwa [Option.map_eq_none_iff, Text.Utf8.find?_eq_none_iff hne] at hnone

/-- The offsets that the search for the region comes upon are boundaries around its body. -/
theorem bodyBetween_of_regionAt? {t : Text} {bodyStart bodyEnd : Nat}
    (h : regionAt? (encode t) = some (.ok (some (bodyStart, bodyEnd)))) :
    BodyBetween (encode t) bodyStart bodyEnd := by
  -- the parts of the located region tell the boundaries, and the search the first places
  have hlocate := h
  rw [regionAt?_encode, Option.some.injEq, map_eq_ok_iff] at hlocate
  obtain ⟨located, hlocate, hoffsets⟩ := hlocate
  obtain ⟨r, rfl, hr⟩ := Option.map_eq_some_iff.mp hoffsets
  obtain rfl := Region.text_of_locate? hlocate
  simp only [Prod.mk.injEq] at hr
  obtain ⟨rfl, rfl⟩ := hr
  have hend : r.bodyEnd = r.bodyStart + byteSize r.body := by
    rw [Region.bodyEnd, Region.bodyStart, Text.byteSize_append (r.head ++ startMarker)]
  have hsize : (encode r.text).length = r.bodyEnd + byteSize (endMarker ++ r.tail) := by
    rw [Text.length_encode, Region.text, List.append_assoc _ endMarker, Text.byteSize_append,
      Region.bodyEnd]
  have hboundary (x y : Text) (hr : r.text = x ++ y) :
      isBoundary (encode r.text) (byteSize x) = true := by
    rw [hr]
    exact Text.Utf8.isBoundary_encode x y
  rcases regionAt?_cases h with ⟨heq, -⟩ | ⟨heq, -⟩ | ⟨start, stop, heq, hopens, hcloses⟩
  · simp at heq
  · simp at heq
  · simp only [Except.ok.injEq, Option.some.injEq, Prod.mk.injEq] at heq
    obtain ⟨hstart, rfl⟩ := heq
    rw [← hstart] at hcloses
    exact {
      ordered := by omega
      inside := by omega
      startBoundary := hboundary (r.head ++ startMarker) (r.body ++ endMarker ++ r.tail)
        (by simp only [Region.text, List.append_assoc])
      endBoundary := hboundary (r.head ++ startMarker ++ r.body) (endMarker ++ r.tail)
        (by simp only [Region.text, List.append_assoc])
      opens := ⟨start, hopens, hstart⟩
      closes := hcloses }

/-- An update by offsets comes out in one of four ways, each for documents of one kind. -/
theorem splices_of_splice? {fragment : Bytes} {t : Text} {outcome : Except Fault (Bytes × Action)}
    (h : splice? layout fragment (encode t) = some outcome) :
    Splices layout fragment (encode t) outcome := by
  simp only [splice?, Option.bind_eq_bind, Option.bind_eq_some_iff] at h
  obtain ⟨located, hlocated, h⟩ := h
  rcases regionAt?_cases hlocated with ⟨rfl, hmarker⟩ | ⟨rfl, hunclosed⟩ |
    ⟨start, bodyEnd, rfl, -, -⟩
  · cases hopening : openingAt? (layout.insertionPoints (endingOf (encode t))) (encode t) with
    | none =>
      simp only [hopening, Option.some.injEq] at h
      rw [← h, layout.map_anchor_insertionPoints]
      exact .placeless ⟨hmarker, not_standsAt_of_openingAt? hopening⟩
    | some place =>
      obtain ⟨point, offset⟩ := place
      simp only [hopening, Option.bind_eq_some_iff] at h
      obtain ⟨before, hbefore, after, hafter, h⟩ := h
      -- slices that exist are what stands before the offset and behind it
      rw [← Option.some.inj h, Text.Utf8.eq_take_of_slice? hbefore,
        Text.Utf8.eq_drop_of_slice? hafter]
      exact .inserted hmarker (opensAt_of_openingAt? hopening)
  · obtain rfl := Option.some.inj h
    exact .unclosed hunclosed
  · simp only [Option.bind_eq_some_iff] at h
    obtain ⟨head, hhead, tail, htail, h⟩ := h
    rw [← Option.some.inj h, Text.Utf8.eq_take_of_slice? hhead, Text.Utf8.eq_drop_of_slice? htail]
    exact .replaced (bodyBetween_of_regionAt? hlocated)

/-- An unclosed region has a start marker. -/
theorem Unclosed.marked (h : Unclosed bytes) : Marked bytes := by
  obtain ⟨start, hfirst, -⟩ := h
  exact ⟨start, hfirst.stands⟩

/-- A region with a body has a start marker, and it is closed. -/
theorem BodyBetween.marked_and_closed {bodyStart bodyEnd : Nat}
    (h : BodyBetween bytes bodyStart bodyEnd) : Marked bytes ∧ ¬ Unclosed bytes := by
  obtain ⟨start, hfirst, hstart⟩ := h.opens
  refine ⟨⟨start, hfirst.stands⟩, ?_⟩
  rintro ⟨start', hfirst', hnone⟩
  obtain rfl := hfirst.unique hfirst'
  exact hnone bodyEnd (hstart ▸ h.ordered) h.closes.stands

/-- The ways in which an update comes out. -/
theorem update_cases (layout : Layout) (fragment document : Text) :
    (update layout fragment document = .error .unterminated ∧ Unclosed (encode document)) ∨
      (update layout fragment document = .error (.anchorMissing layout.anchors) ∧
        Placeless layout (encode document)) ∨
      ∃ updated, update layout fragment document = .ok updated ∧
        ((updated.action = .replaced ∧ ∃ bodyStart bodyEnd,
          BodyBetween (encode document) bodyStart bodyEnd ∧
          encode updated.text = (encode document).take bodyStart ++ encode fragment ++
            (encode document).drop bodyEnd) ∨
        (updated.action = .inserted ∧ ¬ Marked (encode document) ∧ ∃ point offset,
          OpensAt (layout.insertionPoints (.detect document)) (encode document) point offset ∧
          encode updated.text = (encode document).take offset ++ wrapped point (encode fragment) ++
            (encode document).drop offset)) := by
  have hsplices := splices_of_splice? (splice?_encode layout fragment document)
  -- the outcome has to be a variable for the constructors to tell it
  generalize hout : (update layout fragment document).map _ = outcome at hsplices
  cases hsplices with
  | unclosed h => exact .inl ⟨map_eq_error_iff.mp hout, h⟩
  | placeless h => exact .inr (.inl ⟨map_eq_error_iff.mp hout, h⟩)
  | replaced h =>
    obtain ⟨updated, hupdate, heq⟩ := map_eq_ok_iff.mp hout
    simp only [Prod.mk.injEq] at heq
    exact .inr (.inr ⟨updated, hupdate, .inl ⟨heq.2, _, _, h, heq.1⟩⟩)
  | inserted hmarker h =>
    obtain ⟨updated, hupdate, heq⟩ := map_eq_ok_iff.mp hout
    simp only [Prod.mk.injEq] at heq
    rw [endingOf_encode] at h
    exact .inr (.inr ⟨updated, hupdate, .inr ⟨heq.2, hmarker, _, _, h, heq.1⟩⟩)

/-- An update fails for a region without an end exactly where the first start marker has none. -/
theorem update_unterminated_iff (layout : Layout) (fragment document : Text) :
    update layout fragment document = .error .unterminated ↔ Unclosed (encode document) := by
  constructor
  · intro hupdate
    rcases update_cases layout fragment document with ⟨-, h⟩ | ⟨hother, -⟩ | ⟨_, hother, -⟩
    · exact h
    · simp [hupdate] at hother
    · simp [hupdate] at hother
  · intro h
    -- a document of this kind is of none of the others
    rcases update_cases layout fragment document with ⟨hupdate, -⟩ | ⟨-, hmarker, -⟩ |
      ⟨_, -, ⟨-, _, _, hbody, -⟩ | ⟨-, hmarker, -⟩⟩
    · exact hupdate
    · exact absurd h.marked hmarker
    · exact absurd h hbody.marked_and_closed.2
    · exact absurd h.marked hmarker

/-- An update fails for want of a place exactly where there is neither a start marker nor an anchor of
the layout, and then it lists the anchors. -/
theorem update_anchorMissing_iff (layout : Layout) (fragment document : Text)
    (missing : List Text) :
    update layout fragment document = .error (.anchorMissing missing) ↔
      missing = layout.anchors ∧ Placeless layout (encode document) := by
  constructor
  · intro hupdate
    rcases update_cases layout fragment document with ⟨hother, -⟩ | ⟨hother, h⟩ | ⟨_, hother, -⟩
    · simp [hupdate] at hother
    · simp only [hupdate, Except.error.injEq, Fault.anchorMissing.injEq] at hother
      exact ⟨hother, h⟩
    · simp [hupdate] at hother
  · rintro ⟨rfl, h⟩
    rcases update_cases layout fragment document with ⟨-, hunclosed⟩ | ⟨hupdate, -⟩ |
      ⟨_, -, ⟨-, _, _, hbody, -⟩ | ⟨-, -, point, offset, hopens, -⟩⟩
    · exact absurd hunclosed.marked h.1
    · exact hupdate
    · exact absurd hbody.marked_and_closed.1 h.1
    · -- the anchor of the chosen point would stand in the document
      obtain ⟨others, rest, hpoints, -⟩ := hopens.preferred
      have hpoint : point ∈ layout.insertionPoints (.detect document) := by simp [hpoints]
      exact absurd hopens.first.stands (h.2 _ (Layout.anchor_mem hpoint) offset)

/-- When an update succeeds, and where it puts the fragment, told by the bytes of the document:
* updating by offsets is the same update, and it never cuts a document within a code point;
* an update fails for a region without an end exactly when no end marker stands behind the first start
  marker, and for want of a place exactly when no start marker stands in the document and none of the
  layout's anchors, which are then listed;
* otherwise it succeeds, and it replaces exactly where a start marker stands;
* a replaced body stood between the offsets that the search finds, and a new region goes in front of the
  first anchor that the layout prefers among those in the document;
* the offsets that the search finds are those of the located region, and boundaries of its body. -/
theorem update_decided_by (layout : Layout) (fragment document : Text) :
    let bytes := encode document
    splice? layout (encode fragment) bytes =
        some ((update layout fragment document).map fun updated =>
          (encode updated.text, updated.action)) ∧
      (update layout fragment document = .error .unterminated ↔ Unclosed bytes) ∧
      (∀ missing, update layout fragment document = .error (.anchorMissing missing) ↔
        missing = layout.anchors ∧ Placeless layout bytes) ∧
      (¬ Unclosed bytes → ¬ Placeless layout bytes →
        ∃ updated, update layout fragment document = .ok updated ∧
          (updated.action = .replaced ↔ Marked bytes) ∧
          (updated.action = .replaced → ∃ bodyStart bodyEnd, BodyBetween bytes bodyStart bodyEnd ∧
            encode updated.text = bytes.take bodyStart ++ encode fragment ++ bytes.drop bodyEnd) ∧
          (updated.action = .inserted → ∃ point offset,
            OpensAt (layout.insertionPoints (.detect document)) bytes point offset ∧
            encode updated.text =
              bytes.take offset ++ wrapped point (encode fragment) ++ bytes.drop offset)) ∧
      regionAt? bytes = some ((Region.locate? document).map fun located =>
        located.map fun r => (r.bodyStart, r.bodyEnd)) ∧
      ∀ bodyStart bodyEnd, regionAt? bytes = some (.ok (some (bodyStart, bodyEnd))) →
        BodyBetween bytes bodyStart bodyEnd := by
  intro bytes
  refine ⟨splice?_encode layout fragment document, update_unterminated_iff layout fragment document,
    update_anchorMissing_iff layout fragment document, ?_, regionAt?_encode document,
    fun bodyStart bodyEnd => bodyBetween_of_regionAt?⟩
  intro hclosed hplace
  -- an update fails in one of two ways, or puts the fragment into a region or a new place
  rcases update_cases layout fragment document with ⟨-, h⟩ | ⟨-, h⟩ | ⟨updated, hupdate, h⟩
  · exact absurd h hclosed
  · exact absurd h hplace
  · refine ⟨updated, hupdate, ?_⟩
    rcases h with ⟨haction, bodyStart, bodyEnd, hbody, htext⟩ |
      ⟨haction, hmarker, point, offset, hopens, htext⟩
    · exact ⟨iff_of_true haction hbody.marked_and_closed.1, fun _ => ⟨_, _, hbody, htext⟩,
        fun hother => by simp [haction] at hother⟩
    · exact ⟨iff_of_false (by simp [haction]) hmarker, fun hother => by simp [haction] at hother,
        fun _ => ⟨point, offset, hopens, htext⟩⟩

/-- A region between an end marker that comes too early and a start marker that comes too late, next to
characters of two and three bytes. -/
def tangled : Region := ⟨'é' :: endMarker, 'ü' :: startMarker, ['€']⟩

/-- The document takes a fragment between the offsets of its region, though it has no anchor. -/
theorem update_decided_by_tangled :
    let bytes := encode tangled.text
    regionAt? bytes = some (.ok (some (74, 110))) ∧ BodyBetween bytes 74 110 ∧
      ¬ Unclosed bytes ∧ ¬ Placeless .webApp bytes ∧
      ∃ updated, update .webApp ['λ'] tangled.text = .ok updated ∧
        (updated.action = .replaced ↔ Marked bytes) := by
  intro bytes
  have hlocate : Region.locate? tangled.text = .ok (some tangled) :=
    Region.locate?_eq_some_iff.mpr ⟨rfl, by decide, by decide⟩
  have hoffsets : (tangled.bodyStart, tangled.bodyEnd) = (74, 110) := by decide
  obtain ⟨-, -, -, hsucceeds, hregion, hbetween⟩ := update_decided_by .webApp ['λ'] tangled.text
  have hfound : regionAt? bytes = some (.ok (some (74, 110))) := by
    rw [hregion, hlocate, ← hoffsets]
    rfl
  have hbody : BodyBetween bytes 74 110 := hbetween 74 110 hfound
  obtain ⟨hmarked, hclosed⟩ := hbody.marked_and_closed
  have hplace : ¬ Placeless .webApp bytes := fun h => h.1 hmarked
  obtain ⟨updated, hupdate, haction, -, -⟩ := hsucceeds hclosed hplace
  exact ⟨hfound, hbody, hclosed, hplace, updated, hupdate, haction⟩

end ServletRoutes.Document
