import ServletRoutes.Proofs.Document.Uniform
import ServletRoutes.Proofs.Text.Counting

/-!
# `ServletRoutes.Proofs.Document.Confinement`: no value leaves the region

The values of a mapping are arbitrary texts, and they are written into a
region that is found again by its markers. `render_confined` says that no value
can be mistaken for what surrounds it: a fragment has neither a marker nor an
anchor of any layout, its line breaks are the line endings that it was asked
for, and their number is told by the numbers of mappings and patterns alone.

Markers and anchors are tags that no shape writes (`foreign_anchor`), so
`Foreign.not_infix_render` applies. For the number of line endings it is enough
to count line feeds (`LineEnding.occurrences_eq_count`), each of which ends a
line of the fragment (`Shape.count_feed_render`).
-/

set_option autoImplicit false

namespace ServletRoutes.Document

open Route (Mapping)

variable {layout : Layout} {point : InsertionPoint} {ending : LineEnding} {t : Text}

/-! ### Markers and anchors -/

/-- The texts before which some layout puts a region. -/
def anchors : List Text :=
  ["</web-app>".toList, "</system-properties>".toList, "</appengine-web-app>".toList]

/-- The anchors do not depend on the line ending. -/
theorem anchor_mem_anchors (h : point ∈ layout.insertionPoints ending) : point.anchor ∈ anchors := by
  cases layout with
  | webApp =>
    obtain rfl := List.mem_singleton.mp h
    exact List.mem_cons_self
  | appEngineWebApp =>
    simp only [Layout.insertionPoints, List.mem_cons, List.not_mem_nil, or_false] at h
    rcases h with rfl | rfl <;> simp [anchors]

/-- No shape writes the start marker. -/
theorem foreign_startMarker : Foreign startMarker where
  isTag := isTag_startMarker
  not_element := by decide
  not_property := by decide

/-- No shape writes an anchor. -/
theorem foreign_anchor {anchor : Text} (h : anchor ∈ anchors) : Foreign anchor := by
  simp only [anchors, List.mem_cons, List.not_mem_nil, or_false] at h
  rcases h with rfl | rfl | rfl
  · exact ⟨⟨"/web-app".toList, rfl, forall_mem_of_all (by decide)⟩, by decide,
      by decide⟩
  · exact ⟨⟨"/system-properties".toList, rfl, forall_mem_of_all (by decide)⟩,
      by decide, by decide⟩
  · exact ⟨⟨"/appengine-web-app".toList, rfl, forall_mem_of_all (by decide)⟩,
      by decide, by decide⟩

/-! ### Line endings -/

namespace LineEnding

/-- Where carriage returns and line feeds stand next to each other, every line feed but a leading one
completes a line ending. -/
private theorem occurrences_crlf (h : t.IsChain fun c d => c = '\r' ↔ d = '\n') :
    Text.occurrences crlf.text t + (if t.head? = some '\n' then 1 else 0) = t.count '\n' := by
  induction t with
  | nil => rfl
  | cons c t ih =>
    have hrest := ih h.tail
    -- a line ending stands in front exactly when a line feed comes next
    have hfront : crlf.text <+: c :: t ↔ t.head? = some '\n' := by
      cases t with
      | nil => simp [text]
      | cons d t =>
        have hpair : c = '\r' ↔ d = '\n' := h.rel
        simp only [text, List.cons_prefix_cons, List.nil_prefix, and_true, List.head?_cons,
          Option.some.injEq, eq_comm (a := '\r'), eq_comm (a := '\n')]
        exact ⟨And.right, fun hd => ⟨hpair.mpr hd, hd⟩⟩
    rw [Text.occurrences_cons, List.count_cons, ← hrest]
    simp only [hfront, List.head?_cons, Option.some.injEq, beq_iff_eq]

/-- Where no line breaks of the other kind occur, each line feed completes one line ending. -/
theorem occurrences_eq_count (h : Unmixed ending t) :
    Text.occurrences ending.text t = t.count '\n' := by
  cases ending with
  | lf =>
    -- the line ending is the line feed
    clear h
    induction t with
    | nil => rfl
    | cons c t ih =>
      rw [Text.occurrences_cons, List.count_cons, ih]
      simp only [text, List.cons_prefix_cons, List.nil_prefix, and_true, eq_comm (a := '\n'),
        beq_iff_eq]
  | crlf =>
    obtain ⟨hhead, -, hchain⟩ := paired_iff_isChain.mp h
    have hcount := occurrences_crlf hchain
    rwa [if_neg hhead, Nat.add_zero] at hcount

end LineEnding

namespace Shape

/-- The number of line endings in a fragment: the first one, and one for each generated line. -/
def endings : Shape → List Mapping → Nat
  | servletMappings constraints, ms =>
    1 + ms.length + if constraints then ms.countP (·.elevated) else 0
  | systemProperties, ms => 1 + total (fun m => m.patterns.length) ms

/-- There is one line ending more than generated lines. -/
theorem length_linesOf (shape : Shape) (ms : List Mapping) :
    1 + (ms.flatMap shape.linesOf).length = shape.endings ms := by
  rw [show (ms.flatMap shape.linesOf).length = total (fun m => (shape.linesOf m).length) ms from
    List.length_flatMap]
  cases shape with
  | systemProperties => simp only [linesOf, List.length_map, endings]
  | servletMappings constraints =>
    have hservlet (m : Mapping) : ((servletMappings constraints).linesOf m).length =
        1 + if constraints && m.elevated then 1 else 0 := by
      rw [linesOf, List.length_cons, Nat.add_comm]
      split <;> rfl
    simp only [hservlet, endings, Nat.add_assoc]
    congr 1
    induction ms with
    | nil => simp
    | cons m ms ih =>
      rw [total_cons, ih, List.length_cons, List.countP_cons]
      -- a servlet each, and a constraint where one is asked for
      cases constraints with
      | false => simp only [Bool.false_and, Bool.false_eq_true, if_false]; omega
      | true => simp only [Bool.true_and, if_true]; omega

/-- Each generated line ends in a line feed, and there is one before the first line. -/
theorem count_feed_render (shape : Shape) (ms : List Mapping) (ending : LineEnding) :
    (shape.render ms ending).count '\n' = 1 + (ms.flatMap shape.linesOf).length := by
  have hending : ending.text.count '\n' = 1 := by cases ending <;> decide
  have hindent : shape.indent.count '\n' = 0 := by cases shape <;> rfl
  have hlines (lines : List Text) (h : ∀ line ∈ lines, '\n' ∉ line) :
      (lines.flatMap fun line => shape.indent ++ line ++ ending.text).count '\n' = lines.length := by
    induction lines with
    | nil => rfl
    | cons line lines ih =>
      rw [List.forall_mem_cons] at h
      rw [List.flatMap_cons, List.count_append, List.count_append, List.count_append, ih h.2,
        hindent, hending, List.count_eq_zero.mpr h.1, List.length_cons]
      omega
  have hnone : ∀ line ∈ ms.flatMap shape.linesOf, '\n' ∉ line := by
    intro line hline
    obtain ⟨m, -, hline⟩ := List.mem_flatMap.mp hline
    exact break_notMem_linesOf (.inr rfl) hline
  rw [render, List.count_append, List.count_append, hending, hindent, hlines _ hnone, Nat.add_zero]

end Shape

/-- Whatever texts the mappings hold, a fragment stays inside its region:
* neither marker is in it, and no anchor of any layout;
* it has no line breaks but the line endings it was asked for;
* it has one of these before the first line and one behind each line, a line for each mapping and for
  each elevated mapping that is guarded, or a line for each pattern. -/
theorem render_confined (shape : Shape) (ms : List Mapping) (ending : LineEnding) :
    let fragment := shape.render ms ending
    ¬ startMarker <:+: fragment ∧ ¬ endMarker <:+: fragment ∧
      (∀ anchor ∈ anchors, ¬ anchor <:+: fragment) ∧
      (∀ (layout : Layout) (ending' : LineEnding), ∀ point ∈ layout.insertionPoints ending',
        ¬ point.anchor <:+: fragment) ∧
      LineEnding.Unmixed ending fragment ∧
      Text.occurrences ending.text fragment = shape.endings ms := by
  intro fragment
  have hanchor : ∀ anchor ∈ anchors, ¬ anchor <:+: fragment := fun anchor h =>
    (foreign_anchor h).not_infix_render shape ms ending
  have hunmixed : LineEnding.Unmixed ending fragment := shape.unmixed_render ms ending
  refine ⟨foreign_startMarker.not_infix_render shape ms ending,
    foreign_endMarker.not_infix_render shape ms ending, hanchor, ?_, hunmixed, ?_⟩
  · intro layout ending' point hpoint
    exact hanchor point.anchor (anchor_mem_anchors hpoint)
  · rw [LineEnding.occurrences_eq_count hunmixed, Shape.count_feed_render, Shape.length_linesOf]

/-- A mapping whose values are the markers, and an anchor with a line break. -/
def markerMapping : Mapping := ⟨endMarker, startMarker, ["</web-app>\r\n".toList], true⟩

/-- Its fragment has two lines, and the anchor is in none of them. -/
theorem render_confined_markers :
    let fragment := (Shape.servletMappings true).render [markerMapping] .crlf
    "</web-app>".toList ∈ anchors ∧ ¬ "</web-app>".toList <:+: fragment ∧
      ¬ endMarker <:+: fragment ∧ Text.occurrences LineEnding.crlf.text fragment = 3 := by
  intro fragment
  obtain ⟨-, hend, hanchors, -, -, hendings⟩ :=
    render_confined (.servletMappings true) [markerMapping] .crlf
  have hanchor : "</web-app>".toList ∈ anchors := List.mem_cons_self
  exact ⟨hanchor, hanchors _ hanchor, hend, hendings⟩

end ServletRoutes.Document
