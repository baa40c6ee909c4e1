import Mathlib.Data.List.Basic
import ServletRoutes.Document.Fragment
import ServletRoutes.Document.Layout
import ServletRoutes.Proofs.Text.Occurrence

/-!
# `ServletRoutes.Proofs.Document.Tag`: tags do not overlap

The two markers, the anchors and everything between angle brackets in a
generated line are tags: a text that opens with `<`, closes with `>` and has
no bracket and no line break in between. Two tags in one text are therefore
equal, or apart. The theorems:

* `IsTag.infix_append_of_head` / `IsTag.infix_append_of_getLast` /
  `IsTag.infix_append_ending`: where a text is put together in front of `<`,
  behind `>` or at a line ending, no tag arises across the seam.
* `IsTag.infix_iff_eq`: the only tag in a tag is itself.
* `IsTag.infix_append_dropLast`: a tag that is cut short behind a text does
  not complete an earlier one.
* `infix_element_iff`: the tags of an element are its own two and those of
  its content.
-/

set_option autoImplicit false

namespace ServletRoutes.Document

variable {needle tag x y content : Text}

/-- A text between angle brackets, without a further bracket and without a line break. -/
def IsTag (t : Text) : Prop :=
  ∃ inner, t = '<' :: (inner ++ ['>']) ∧ ∀ c ∈ inner, c ∉ ['<', '>', '\r', '\n']

/-- What holds of every character of a text, by going through the text. -/
theorem forall_mem_of_all {t : Text} {p : Char → Prop} [DecidablePred p]
    (h : (t.all fun c => p c) = true) : ∀ c ∈ t, p c :=
  fun c hc => of_decide_eq_true (List.all_eq_true.mp h c hc)

/-- The start marker is a tag. -/
theorem isTag_startMarker : IsTag startMarker :=
  ⟨"!-- Generated servlet mapping --".toList, rfl, forall_mem_of_all (by decide)⟩

/-- The end marker is a tag. -/
theorem isTag_endMarker : IsTag endMarker :=
  ⟨"!-- End Generated servlet mapping --".toList, rfl, forall_mem_of_all (by decide)⟩

namespace IsTag

/-- A tag is not empty. -/
theorem ne_nil (h : IsTag tag) : tag ≠ [] := by
  obtain ⟨inner, rfl, -⟩ := h
  simp

/-- A tag holds the bracket that closes it. -/
theorem close_mem (h : IsTag tag) : '>' ∈ tag := by
  obtain ⟨inner, rfl, -⟩ := h
  simp

/-- A tag holds the bracket that opens it. -/
theorem open_mem (h : IsTag tag) : '<' ∈ tag := by
  obtain ⟨inner, rfl, -⟩ := h
  simp

/-- A tag stands on one line. -/
theorem break_notMem (h : IsTag tag) {c : Char} (hc : c = '\r' ∨ c = '\n') : c ∉ tag := by
  obtain ⟨inner, rfl, hinner⟩ := h
  intro hmem
  simp only [List.mem_cons, List.mem_append, List.not_mem_nil, or_false] at hmem
  rcases hmem with rfl | hmem | rfl
  · simp at hc
  · have := hinner c hmem
    rcases hc with rfl | rfl <;> simp at this
  · simp at hc

/-- The opening bracket of a tag stands only in front. -/
theorem open_notMem_of_append (h : IsTag tag) {front back : Text} (hfront : front ≠ [])
    (heq : tag = front ++ back) : '<' ∉ back := by
  obtain ⟨inner, rfl, hinner⟩ := h
  cases front with
  | nil => exact absurd rfl hfront
  | cons c front =>
    intro hmem
    rw [List.cons_append, List.cons.injEq] at heq
    have hback : '<' ∈ inner ++ ['>'] := heq.2 ▸ List.mem_append_right front hmem
    simp only [List.mem_append, List.mem_singleton, Char.reduceEq, or_false] at hback
    exact hinner '<' hback (by simp)

/-- The closing bracket of a tag stands only at the end. -/
theorem close_notMem_of_append (h : IsTag tag) {front back : Text} (hback : back ≠ [])
    (heq : tag = front ++ back) : '>' ∉ front := by
  obtain ⟨inner, rfl, hinner⟩ := h
  intro hmem
  have hdrop : '<' :: inner = front ++ back.dropLast := by
    rw [← List.dropLast_append_of_ne_nil hback, ← heq, ← List.cons_append, List.dropLast_concat]
  have hfront : '>' ∈ '<' :: inner := hdrop ▸ List.mem_append_left _ hmem
  simp only [List.mem_cons, Char.reduceEq, false_or] at hfront
  exact hinner '>' hfront (by simp)

/-! ### Seams -/

/-- No tag crosses a seam in front of an opening bracket. -/
theorem not_crosses_of_head (h : IsTag needle) (hy : y.head? = some '<') :
    ¬ Text.Crosses needle x y := by
  rintro ⟨front, back, hfront, hback, heq, -, ⟨rest, hprefix⟩⟩
  -- the part behind the seam would begin with the bracket
  cases back with
  | nil => exact hback rfl
  | cons c back =>
    rw [← hprefix, List.cons_append, List.head?_cons, Option.some.injEq] at hy
    subst hy
    exact h.open_notMem_of_append hfront heq List.mem_cons_self

/-- No tag crosses a seam behind a closing bracket. -/
theorem not_crosses_of_getLast (h : IsTag needle) (hx : x.getLast? = some '>') :
    ¬ Text.Crosses needle x y := by
  rintro ⟨front, back, hfront, hback, heq, ⟨rest, hsuffix⟩, -⟩
  -- the part before the seam would end with the bracket
  rw [← hsuffix, List.getLast?_append_of_ne_nil _ hfront] at hx
  exact h.close_notMem_of_append hback heq (List.mem_of_getLast? hx)

/-- No tag crosses a seam in front of a line ending or behind one. -/
theorem not_crosses_ending (h : IsTag needle) (ending : LineEnding) :
    ¬ Text.Crosses needle x (ending.text ++ y) ∧ ¬ Text.Crosses needle ending.text y := by
  have hfeed : '\n' ∉ needle := h.break_notMem (.inr rfl)
  have hreturn : '\r' ∉ needle := h.break_notMem (.inl rfl)
  constructor
  · refine Text.not_crosses_of_head ?_
    cases ending with
    | lf => simpa [LineEnding.text] using hfeed
    | crlf => simpa [LineEnding.text] using hreturn
  · refine Text.not_crosses_of_getLast ?_
    cases ending <;> simpa [LineEnding.text] using hfeed

/-- No tag is in a line ending. -/
theorem not_infix_ending (h : IsTag needle) (ending : LineEnding) : ¬ needle <:+: ending.text := by
  refine Text.not_infix_of_mem_of_notMem h.open_mem ?_
  cases ending <;> decide

/-- No tag arises across a seam in front of an opening bracket. -/
theorem infix_append_of_head (h : IsTag needle) (hy : y.head? = some '<') :
    needle <:+: x ++ y ↔ needle <:+: x ∨ needle <:+: y :=
  Text.infix_append_iff (h.not_crosses_of_head hy)

/-- No tag arises across a seam behind a closing bracket. -/
theorem infix_append_of_getLast (h : IsTag needle) (hx : x.getLast? = some '>') :
    needle <:+: x ++ y ↔ needle <:+: x ∨ needle <:+: y :=
  Text.infix_append_iff (h.not_crosses_of_getLast hx)

/-- No tag arises across a line ending. -/
theorem infix_append_ending (h : IsTag needle) (ending : LineEnding) :
    needle <:+: x ++ (ending.text ++ y) ↔ needle <:+: x ∨ needle <:+: y := by
  obtain ⟨hfront, hback⟩ := h.not_crosses_ending ending
  rw [Text.infix_append_iff hfront, Text.infix_append_iff hback,
    or_iff_right (h.not_infix_ending ending)]

/-- A tag that is cut short behind a text does not complete an earlier one. -/
theorem infix_append_dropLast (h : IsTag needle) (htag : IsTag tag) :
    needle <:+: x ++ tag.dropLast ↔ needle <:+: x := by
  obtain ⟨inner, rfl, hinner⟩ := htag
  rw [← List.cons_append, List.dropLast_concat, h.infix_append_of_head (by simp), or_iff_left]
  refine Text.not_infix_of_mem_of_notMem h.close_mem fun hmem => ?_
  simp only [List.mem_cons, Char.reduceEq, false_or] at hmem
  exact hinner '>' hmem (by simp)

/-- The only tag in a tag is itself. -/
theorem infix_iff_eq (h : IsTag needle) (htag : IsTag tag) : needle <:+: tag ↔ needle = tag := by
  constructor
  · rintro ⟨front, back, heq⟩
    have hfront : front = [] := by
      by_contra hne
      refine htag.open_notMem_of_append hne (heq.symm.trans (List.append_assoc ..)) ?_
      exact List.mem_append_left _ h.open_mem
    have hback : back = [] := by
      by_contra hne
      exact htag.close_notMem_of_append hne heq.symm (List.mem_append_right _ h.close_mem)
    simpa [hfront, hback] using heq
  · rintro rfl
    exact List.infix_rfl

end IsTag

/-! ### Elements -/

/-- The tag that opens an element. -/
def openTag (name : String) : Text := '<' :: (name.toList ++ ['>'])

/-- The tag that closes an element. -/
def closeTag (name : String) : Text := '<' :: ('/' :: name.toList ++ ['>'])

/-- An element is its content between its tags. -/
theorem element_eq (name : String) (content : Text) :
    element name content = openTag name ++ (content ++ closeTag name) := by
  have hslash : "</".toList = ['<', '/'] := by decide
  simp [element, openTag, closeTag, hslash]

/-- An element begins with a bracket. -/
theorem head?_element (name : String) (content : Text) :
    (element name content).head? = some '<' := by
  rw [element_eq]
  rfl

/-- An element ends with a bracket. -/
theorem getLast?_element (name : String) (content : Text) :
    (element name content).getLast? = some '>' := by
  rw [element_eq, closeTag, ← List.cons_append, ← List.append_assoc, ← List.append_assoc,
    List.getLast?_concat]

/-- The names of the elements in generated lines. -/
def elementNames : List String :=
  ["servlet", "servlet-name", "servlet-class", "servlet-mapping", "url-pattern",
    "security-constraint", "web-resource-collection", "web-resource-name", "auth-constraint",
    "role-name"]

/-- A name without brackets and line breaks makes two tags. -/
theorem isTag_of_elementName {name : String} (h : name ∈ elementNames) :
    IsTag (openTag name) ∧ IsTag (closeTag name) := by
  have hall : ∀ n ∈ elementNames, (n.toList.all fun c => c ∉ ['<', '>', '\r', '\n']) = true := by
    decide
  have hname := forall_mem_of_all (hall name h)
  refine ⟨⟨name.toList, rfl, hname⟩, ⟨'/' :: name.toList, rfl, fun c hc => ?_⟩⟩
  rcases List.mem_cons.mp hc with rfl | hc
  · simp
  · exact hname c hc

/-- The tags of an element are its own two and those of its content. -/
theorem infix_element_iff (h : IsTag needle) {name : String} (hname : name ∈ elementNames) :
    needle <:+: element name content ↔
      needle = openTag name ∨ needle <:+: content ∨ needle = closeTag name := by
  obtain ⟨hopen, hclose⟩ := isTag_of_elementName hname
  have hlast : (openTag name).getLast? = some '>' := by
    rw [openTag, ← List.cons_append, List.getLast?_concat]
  rw [element_eq, h.infix_append_of_getLast hlast, h.infix_append_of_head rfl,
    h.infix_iff_eq hopen, h.infix_iff_eq hclose]

end ServletRoutes.Document
