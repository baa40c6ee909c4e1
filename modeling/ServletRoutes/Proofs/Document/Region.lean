import Mathlib.Data.List.Infix
import ServletRoutes.Proofs.Document.Tag
import ServletRoutes.Proofs.Text.Offset

/-!
# `ServletRoutes.Proofs.Document.Region`: which region is located

A region that stands in its own text is the one that is located there
exactly when no start marker comes before it and no end marker is in its
body (`Region.locate?_eq_some_iff`). What follows the end marker and what
else the body holds plays no part: markers are tags, and tags do not
overlap. So a located region keeps its place when its body is exchanged
(`Region.Located.withBody`).
-/

set_option autoImplicit false

namespace ServletRoutes.Document.Region

variable {document body : Text} {r : Region}

/-- Nothing in the parts of a region is mistaken for one of its markers. -/
structure Located (r : Region) : Prop where
  head : ¬ startMarker <:+: r.head
  body : ¬ endMarker <:+: r.body

/-- There is no region exactly when there is no start marker. -/
theorem locate?_eq_none_iff : locate? document = .ok none ↔ ¬ startMarker <:+: document := by
  rw [← Text.cut?_eq_none_iff, locate?]
  split
  next h => simp [h]
  next head rest h =>
    split <;> simp [h]

/-- A region is located exactly when it makes up the document and nothing in its parts is mistaken
for one of its markers. -/
theorem locate?_eq_some_iff :
    locate? document = .ok (some r) ↔ document = r.text ∧ r.Located := by
  -- markers do not overlap themselves, so a cut is at the first one
  have hstart (x y z : Text) : Text.cut? startMarker x = some (y, z) ↔
      x = y ++ startMarker ++ z ∧ ¬ startMarker <:+: y := by
    rw [Text.cut?_eq_some_iff isTag_startMarker.ne_nil,
      isTag_startMarker.infix_append_dropLast isTag_startMarker]
  have hend (x y z : Text) : Text.cut? endMarker x = some (y, z) ↔
      x = y ++ endMarker ++ z ∧ ¬ endMarker <:+: y := by
    rw [Text.cut?_eq_some_iff isTag_endMarker.ne_nil,
      isTag_endMarker.infix_append_dropLast isTag_endMarker]
  constructor
  · intro h
    refine ⟨(text_of_locate? h).symm, ?_⟩
    unfold locate? at h
    split at h
    · simp at h
    next head rest hhead =>
      split at h
      · simp at h
      next body tail hbody =>
        simp only [Except.ok.injEq, Option.some.injEq] at h
        subst h
        exact ⟨((hstart _ _ _).mp hhead).2, ((hend _ _ _).mp hbody).2⟩
  · rintro ⟨rfl, hhead, hbody⟩
    have hcut : Text.cut? startMarker r.text = some (r.head, r.body ++ endMarker ++ r.tail) :=
      (hstart _ _ _).mpr ⟨by simp [text], hhead⟩
    have hcut' : Text.cut? endMarker (r.body ++ endMarker ++ r.tail) = some (r.body, r.tail) :=
      (hend _ _ _).mpr ⟨rfl, hbody⟩
    simp only [locate?, hcut, hcut']

/-- A region is located in its own text when nothing in it is mistaken for a marker. -/
theorem Located.locate?_text (h : r.Located) : locate? r.text = .ok (some r) :=
  locate?_eq_some_iff.mpr ⟨rfl, h⟩

/-- A located region keeps its place with another body that does not close it. -/
theorem Located.withBody (h : r.Located) (hbody : ¬ endMarker <:+: body) :
    (r.withBody body).Located :=
  ⟨h.head, hbody⟩

/-- A new body leaves what stands in front. -/
@[simp] theorem withBody_head (r : Region) (body : Text) : (r.withBody body).head = r.head := rfl

/-- A new body is the body. -/
@[simp] theorem withBody_body (r : Region) (body : Text) : (r.withBody body).body = body := rfl

/-- A new body leaves what stands behind. -/
@[simp] theorem withBody_tail (r : Region) (body : Text) : (r.withBody body).tail = r.tail := rfl

/-- A new body takes the place of the one before. -/
@[simp] theorem withBody_withBody (r : Region) (body body' : Text) :
    (r.withBody body).withBody body' = r.withBody body' := rfl

/-- A document begins with what stands before its region. -/
theorem head_prefix_text (r : Region) : r.head <+: r.text := by
  rw [text, List.append_assoc, List.append_assoc, List.append_assoc]
  exact List.prefix_append _ _

/-- A document ends with what stands after its region. -/
theorem tail_suffix_text (r : Region) : r.tail <:+ r.text := List.suffix_append _ _

/-- The start marker stands in the document. -/
theorem startMarker_infix_text (r : Region) : startMarker <:+: r.text :=
  ⟨r.head, r.body ++ (endMarker ++ r.tail), by simp only [text, List.append_assoc]⟩

/-- Documents with the same surroundings are equal exactly when the bodies are. -/
theorem text_withBody_inj {body body' : Text} :
    (r.withBody body).text = (r.withBody body').text ↔ body = body' := by
  simp only [text, withBody_head, withBody_body, withBody_tail, List.append_cancel_right_eq,
    List.append_cancel_left_eq]

/-- The bytes between the offsets of a region are those of its body. -/
theorem extract_body (r : Region) :
    (Text.Utf8.encode r.text).extract r.bodyStart r.bodyEnd = Text.Utf8.encode r.body := by
  rw [text, List.append_assoc _ endMarker, bodyStart, bodyEnd]
  exact Text.extract_encode ..

end ServletRoutes.Document.Region
