import ServletRoutes.Proofs.Document.Tag

/-!
# `ServletRoutes.Proofs.Document.Fragment`: what a fragment cannot contain

The values of a mapping are arbitrary texts. Escaping takes the brackets and
the line breaks out of them, so the tags and the line breaks of a fragment
are those that the shape writes itself:

* `notMem_escape`: an escaped value has no bracket, no quotation mark and no
  line break.
* `break_notMem_linesOf`: a generated line is one line.
* `Foreign.not_infix_render`: a tag that no shape writes is in no fragment.
* `foreign_endMarker`: the end marker is such a tag, so a generated body
  never closes its own region.
* `return_notMem_render_lf` / `prefix_render`: a fragment has the line ending
  it was asked for, and no other.
-/

set_option autoImplicit false

namespace ServletRoutes.Document

open Route (Mapping)

variable {needle line : Text} {c : Char}

/-! ### Escaped values -/

/-- The characters that escaping takes out of a value. -/
def markupChars : List Char := ['<', '>', '"', '\r', '\n']

/-- No escaped value holds a bracket, a quotation mark or a line break. -/
theorem notMem_escape (hc : c ∈ markupChars) (value : Text) : c ∉ escape value := by
  -- the written forms of the special characters are free of all of them
  have hwritten : ∀ s ∈ ["&amp;", "&lt;", "&gt;", "&quot;", "&#13;", "&#10;"],
      (markupChars.all fun c => c ∉ s.toList) = true := by decide
  intro hmem
  obtain ⟨d, -, hd⟩ := List.mem_flatMap.mp hmem
  unfold escapeChar at hd
  split at hd
  case h_7 hamp hlt hgt hquot hcr hlf =>
    rw [List.mem_singleton] at hd
    subst hd
    simp only [markupChars, List.mem_cons, List.not_mem_nil, or_false] at hc
    rcases hc with h | h | h | h | h
    · exact hlt h
    · exact hgt h
    · exact hquot h
    · exact hcr h
    · exact hlf h
  all_goals exact forall_mem_of_all (hwritten _ (by simp)) c hc hd

/-- No tag occurs in an escaped value. -/
theorem IsTag.not_infix_escape (h : IsTag needle) (value : Text) : ¬ needle <:+: escape value :=
  Text.not_infix_of_mem_of_notMem h.open_mem (notMem_escape (by simp [markupChars]) value)

/-! ### Line breaks -/

/-- An element holds a line break only where its content does. -/
theorem break_notMem_element (hc : c = '\r' ∨ c = '\n') {name : String}
    (hname : name ∈ elementNames) {content : Text} (h : c ∉ content) :
    c ∉ element name content := by
  obtain ⟨hopen, hclose⟩ := isTag_of_elementName hname
  rw [element_eq, List.mem_append, List.mem_append]
  rintro (hmem | hmem | hmem)
  · exact hopen.break_notMem hc hmem
  · exact h hmem
  · exact hclose.break_notMem hc hmem

/-- The text between the opening bracket and the pattern of a property. -/
def propertyFront : Text := "property name=\"url:".toList

/-- The text between the pattern and the type of a property. -/
def propertyMiddle : Text := "\" value=\"".toList

/-- A property opens and closes one pair of brackets. -/
theorem propertyElement_eq (m : Mapping) (pattern : Text) :
    propertyElement m pattern =
      '<' :: (propertyFront ++ (escape pattern ++ (propertyMiddle ++
        (escape m.typeName ++ ['"', '/']))) ++ ['>']) := by
  have hfront : "<property name=\"url:".toList = '<' :: propertyFront := by decide
  have hmiddle : "\" value=\"".toList = propertyMiddle := rfl
  have hback : "\"/>".toList = ['"', '/', '>'] := by decide
  unfold propertyElement
  simp only [hfront, hmiddle, hback, List.cons_append, List.append_assoc, List.nil_append]

/-- A property is a tag of its own, whatever its values are. -/
theorem isTag_propertyElement (m : Mapping) (pattern : Text) : IsTag (propertyElement m pattern) := by
  have hfixed : ∀ t ∈ [propertyFront, propertyMiddle, ['"', '/']],
      (t.all fun c => c ∉ ['<', '>', '\r', '\n']) = true := by decide
  have hescape (value : Text) : ∀ c ∈ escape value, c ∉ ['<', '>', '\r', '\n'] := by
    intro c hmem hc
    have hsub : ∀ d ∈ ['<', '>', '\r', '\n'], d ∈ markupChars := by simp [markupChars]
    exact notMem_escape (hsub c hc) value hmem
  refine ⟨_, propertyElement_eq m pattern, fun c hc => ?_⟩
  simp only [List.mem_append] at hc
  rcases hc with hc | hc | hc | hc | hc
  · exact forall_mem_of_all (hfixed propertyFront (by simp)) c hc
  · exact hescape pattern c hc
  · exact forall_mem_of_all (hfixed propertyMiddle (by simp)) c hc
  · exact hescape m.typeName c hc
  · exact forall_mem_of_all (hfixed ['"', '/'] (by simp)) c hc

/-- A generated line begins with a bracket. -/
theorem head?_linesOf {shape : Shape} {m : Mapping} (hline : line ∈ shape.linesOf m) :
    line.head? = some '<' := by
  cases shape with
  | systemProperties =>
    obtain ⟨pattern, -, rfl⟩ := List.mem_map.mp hline
    rw [propertyElement_eq]
    rfl
  | servletMappings constraints =>
    rcases List.mem_cons.mp hline with rfl | hline
    · rw [List.head?_append, servletElement, head?_element]
      rfl
    · split at hline
      · obtain rfl := List.mem_singleton.mp hline
        exact head?_element ..
      · simp at hline

/-- A generated line is one line: the values of the mapping add no line break. -/
theorem break_notMem_linesOf (hc : c = '\r' ∨ c = '\n') {shape : Shape} {m : Mapping}
    (hline : line ∈ shape.linesOf m) : c ∉ line := by
  have hescape (value : Text) : c ∉ escape value :=
    notMem_escape (by rcases hc with rfl | rfl <;> simp [markupChars]) value
  have helement {name : String} (hname : name ∈ elementNames) {content : Text}
      (h : c ∉ content) : c ∉ element name content := break_notMem_element hc hname h
  cases shape with
  | systemProperties =>
    obtain ⟨pattern, -, rfl⟩ := List.mem_map.mp hline
    exact (isTag_propertyElement m pattern).break_notMem hc
  -- all text in a line is escaped, and the elements around it have no line break
  | servletMappings constraints =>
    have hname : c ∉ element "servlet-name" (escape m.servletName) :=
      helement (by decide) (hescape _)
    rcases List.mem_cons.mp hline with rfl | hline
    · rw [List.mem_append, List.mem_flatMap]
      rintro (hmem | ⟨pattern, -, hmem⟩)
      · refine helement (by decide) ?_ hmem
        rw [List.mem_append, not_or]
        exact ⟨hname, helement (by decide) (hescape _)⟩
      · refine helement (by decide) ?_ hmem
        rw [List.mem_append, not_or]
        exact ⟨hname, helement (by decide) (hescape _)⟩
    · split at hline
      · obtain rfl := List.mem_singleton.mp hline
        refine helement (by decide) ?_
        rw [List.mem_append, not_or]
        constructor
        · refine helement (by decide) ?_
          rw [List.mem_append, not_or, List.mem_flatMap]
          refine ⟨helement (by decide) (hescape _), ?_⟩
          rintro ⟨pattern, -, hmem⟩
          exact helement (by decide) (hescape pattern) hmem
        · refine helement (by decide) (helement (by decide) ?_)
          rcases hc with rfl | rfl <;> decide
      · simp at hline

/-- A fragment with one-character line endings holds no carriage return. -/
theorem return_notMem_render_lf (shape : Shape) (mappings : List Mapping) :
    '\r' ∉ shape.render mappings .lf := by
  have hindent : '\r' ∉ shape.indent := by cases shape <;> simp [Shape.indent]
  have hending : '\r' ∉ LineEnding.lf.text := by decide
  simp only [Shape.render, List.mem_append, List.mem_flatMap, not_or, not_exists, not_and]
  refine ⟨⟨hending, ?_⟩, hindent⟩
  rintro line ⟨m, -, hline⟩
  exact ⟨⟨hindent, break_notMem_linesOf (.inl rfl) hline⟩, hending⟩

/-- A fragment begins with the line ending it was asked for. -/
theorem prefix_render (shape : Shape) (mappings : List Mapping) (ending : LineEnding) :
    ending.text <+: shape.render mappings ending := by
  rw [Shape.render, List.append_assoc]
  exact List.prefix_append _ _

/-- Fragments with different line endings differ. -/
theorem render_inj {shape : Shape} {mappings mappings' : List Mapping} {e e' : LineEnding}
    (h : shape.render mappings e = shape.render mappings' e') : e = e' := by
  obtain ⟨rest, hrest⟩ := prefix_render shape mappings e
  obtain ⟨rest', hrest'⟩ := prefix_render shape mappings' e'
  rw [← hrest, ← hrest'] at h
  cases e with
  | lf =>
    cases e' with
    | lf => rfl
    | crlf => simp [LineEnding.text] at h
  | crlf =>
    cases e' with
    | lf => simp [LineEnding.text] at h
    | crlf => rfl

/-! ### Foreign tags -/

/-- A tag that no shape writes: it is neither the tag of an element nor a property. -/
structure Foreign (needle : Text) : Prop where
  isTag : IsTag needle
  not_element : ∀ name ∈ elementNames, needle ≠ openTag name ∧ needle ≠ closeTag name
  not_property : ¬ "<property".toList <+: needle

theorem foreign_endMarker : Foreign endMarker where
  isTag := isTag_endMarker
  not_element := by decide
  not_property := by decide

namespace Foreign

variable {content : Text}

/-- An element holds a foreign tag only where its content does. -/
theorem not_infix_element (h : Foreign needle) {name : String} (hname : name ∈ elementNames)
    (hcontent : ¬ needle <:+: content) : ¬ needle <:+: element name content := by
  rw [infix_element_iff h.isTag hname]
  rintro (heq | hmem | heq)
  · exact (h.not_element name hname).1 heq
  · exact hcontent hmem
  · exact (h.not_element name hname).2 heq

/-- Behind a text without a foreign tag an element without one may follow. -/
theorem not_infix_append_element (h : Foreign needle) {name : String} {x : Text}
    (hx : ¬ needle <:+: x) (hcontent : ¬ needle <:+: element name content) :
    ¬ needle <:+: x ++ element name content := by
  rw [h.isTag.infix_append_of_head (head?_element name content), not_or]
  exact ⟨hx, hcontent⟩

/-- Elements without a foreign tag may follow one another. -/
theorem not_infix_flatMap (h : Foreign needle) {name : String} {contents : Text → Text}
    {patterns : List Text} (hall : ∀ p ∈ patterns, ¬ needle <:+: element name (contents p)) :
    ¬ needle <:+: patterns.flatMap fun p => element name (contents p) := by
  induction patterns with
  | nil =>
    rw [List.flatMap_nil, List.infix_nil]
    exact h.isTag.ne_nil
  | cons p patterns ih =>
    rw [List.flatMap_cons, h.isTag.infix_append_of_getLast (getLast?_element name _), not_or]
    exact ⟨hall p List.mem_cons_self, ih fun q hq => hall q (List.mem_cons_of_mem p hq)⟩

/-- A foreign tag is in no property. -/
theorem not_infix_propertyElement (h : Foreign needle) (m : Mapping) (pattern : Text) :
    ¬ needle <:+: propertyElement m pattern := by
  rw [h.isTag.infix_iff_eq (isTag_propertyElement m pattern)]
  rintro rfl
  refine h.not_property ?_
  have hfront : "<property".toList <+: '<' :: propertyFront := by decide
  rw [propertyElement_eq, List.append_assoc]
  exact hfront.trans (List.prefix_append _ _)

/-- A foreign tag is in no generated line. -/
theorem not_infix_linesOf (h : Foreign needle) {shape : Shape} {m : Mapping}
    (hline : line ∈ shape.linesOf m) : ¬ needle <:+: line := by
  cases shape with
  | systemProperties =>
    obtain ⟨pattern, -, rfl⟩ := List.mem_map.mp hline
    exact h.not_infix_propertyElement m pattern
  -- a tag that is none of the elements is in none of them, and in no text that is escaped
  | servletMappings constraints =>
    have hescape (value : Text) : ¬ needle <:+: escape value := h.isTag.not_infix_escape value
    have hname : ¬ needle <:+: element "servlet-name" (escape m.servletName) :=
      h.not_infix_element (by decide) (hescape _)
    have hpattern (p : Text) : ¬ needle <:+: element "url-pattern" (escape p) :=
      h.not_infix_element (by decide) (hescape p)
    rcases List.mem_cons.mp hline with rfl | hline
    · unfold servletElement
      rw [h.isTag.infix_append_of_getLast (getLast?_element _ _), not_or]
      constructor
      · refine h.not_infix_element (by decide) (h.not_infix_append_element hname ?_)
        exact h.not_infix_element (by decide) (hescape _)
      · refine h.not_infix_flatMap fun p _ => h.not_infix_element (by decide) ?_
        exact h.not_infix_append_element hname (hpattern p)
    · split at hline
      · obtain rfl := List.mem_singleton.mp hline
        refine h.not_infix_element (by decide) (h.not_infix_append_element ?_ ?_)
        · refine h.not_infix_element (by decide) ?_
          rw [h.isTag.infix_append_of_getLast (getLast?_element _ _), not_or]
          constructor
          · exact h.not_infix_element (by decide) (hescape _)
          · exact h.not_infix_flatMap fun p _ => hpattern p
        · refine h.not_infix_element (by decide) (h.not_infix_element (by decide) ?_)
          exact Text.not_infix_of_mem_of_notMem h.isTag.open_mem (by decide)
      · simp at hline

/-- A foreign tag is in no fragment: the line endings between the lines are in no tag. -/
theorem not_infix_render (h : Foreign needle) (shape : Shape) (mappings : List Mapping)
    (ending : LineEnding) : ¬ needle <:+: shape.render mappings ending := by
  have hindent : ¬ needle <:+: shape.indent := by
    refine Text.not_infix_of_mem_of_notMem h.isTag.open_mem ?_
    cases shape <;> simp [Shape.indent]
  -- a tag begins and ends within one line, as it has no line break
  have hlines (lines : List Text)
      (hall : ∀ line ∈ lines, line.head? = some '<' ∧ ¬ needle <:+: line) :
      ¬ needle <:+: (lines.flatMap fun line => shape.indent ++ line ++ ending.text) ++
        shape.indent := by
    induction lines with
    | nil => exact hindent
    | cons line lines ih =>
      rw [List.flatMap_cons, List.append_assoc, List.append_assoc, h.isTag.infix_append_ending,
        not_or]
      refine ⟨?_, ih fun l hl => hall l (List.mem_cons_of_mem line hl)⟩
      rw [h.isTag.infix_append_of_head (hall line List.mem_cons_self).1, not_or]
      exact ⟨hindent, (hall line List.mem_cons_self).2⟩
  rw [Shape.render, List.append_assoc, ← List.nil_append (ending.text ++ _),
    h.isTag.infix_append_ending, not_or, List.infix_nil]
  refine ⟨h.isTag.ne_nil, hlines _ fun line hline => ?_⟩
  obtain ⟨m, -, hline⟩ := List.mem_flatMap.mp hline
  exact ⟨head?_linesOf hline, h.not_infix_linesOf hline⟩

end Foreign

end ServletRoutes.Document
