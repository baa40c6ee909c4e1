import Mathlib.Data.List.Forall2
import ServletRoutes.Proofs.Document.Declaration

/-!
# `ServletRoutes.Proofs.Document.Element`: the elements of a fragment, wherever they stand

The lines of a fragment say what it declares. This module does not look at
lines: `elementsIn?` finds an element wherever its opening tag stands in a
text, so one that a value had smuggled in would be found as well.

`Adds` is how the elements of a text are told from its parts. A part adds the
same elements whatever follows it: a value adds none, an element of another
name adds those of its content, and an element of the name itself adds one.
From this the elements of fragments are told:

* `elementsIn?_constraints`: a constraint for each guarded mapping.
* `elementsIn?_servlets` / `elementsIn?_routes`: a servlet for each mapping,
  and a route for each of its URL patterns.
* `propertiesIn?_render`: a property for each URL pattern.
-/

set_option autoImplicit false

namespace ServletRoutes.Document

open Route (Mapping)

variable {front back x y t content : Text} {cs cs' contents : List Text} {name other : String}

/-- What stands between each `front` in a text and the first `back` behind it. Every `front` counts,
wherever it stands, and each needs a `back`. -/
def enclosed? (front back : Text) : Text → Option (List Text)
  | [] => some []
  | c :: t =>
    match Text.stripStart? front (c :: t) with
    | none => enclosed? front back t
    | some after =>
      match Text.cut? back after with
      | none => none
      -- going on at the next character, and not behind `back`, finds a `front` in the content too
      | some (content, _) => (enclosed? front back t).map (content :: ·)

/-- The contents of the elements of one name in a text, in the order of their opening tags. -/
def elementsIn? (name : String) (t : Text) : Option (List Text) :=
  enclosed? (openTag name) (closeTag name) t

/-- The values of the elements of one name in a text. -/
def valuesIn? (name : String) (t : Text) : Option (List Text) :=
  (elementsIn? name t).map (List.map unescape)

/-- Nothing is enclosed exactly when `front` does not occur. -/
theorem enclosed?_eq_nil_iff (hne : front ≠ []) :
    enclosed? front back t = some [] ↔ ¬ front <:+: t := by
  induction t with
  | nil => simp [enclosed?, List.infix_nil, hne]
  | cons c t ih =>
    rw [List.infix_cons_iff, not_or, ← ih, ← Text.stripStart?_eq_none_iff, enclosed?]
    split
    next hstrip => simp [hstrip]
    next after hstrip =>
      -- a content is found here, or one that has no end
      rw [hstrip]
      refine iff_of_false ?_ (by simp)
      split <;> simp

/-! ### Parts of a text -/

/-- In front of any text, `x` adds these contents. -/
def Adds (front back x : Text) (contents : List Text) : Prop :=
  ∀ y, enclosed? front back (x ++ y) = (enclosed? front back y).map (contents ++ ·)

namespace Adds

/-- A text alone has the contents that it adds. -/
theorem enclosed?_eq (h : Adds front back x contents) : enclosed? front back x = some contents := by
  simpa [enclosed?] using h []

theorem nil : Adds front back [] [] := by
  intro y
  simp

/-- Parts one after the other add their contents one after the other. -/
theorem append (hx : Adds front back x cs) (hy : Adds front back y cs') :
    Adds front back (x ++ y) (cs ++ cs') := by
  intro z
  rw [List.append_assoc, hx, hy, Option.map_map]
  exact congrArg (Option.map · _) (funext fun _ => (List.append_assoc ..).symm)

theorem flatMap {α : Type} {write : α → Text} {contents : α → List Text}
    (h : ∀ a, Adds front back (write a) (contents a)) (items : List α) :
    Adds front back (items.flatMap write) (items.flatMap contents) := by
  induction items with
  | nil => exact nil
  | cons a items ih => exact (h a).append ih

/-- A row of parts that add nothing adds nothing. -/
theorem flatMap_nil {α : Type} {write : α → Text} (h : ∀ a, Adds front back (write a) [])
    (items : List α) : Adds front back (items.flatMap write) [] := by
  have hrow := flatMap h items
  rwa [List.flatMap_eq_nil_iff.mpr fun _ _ => rfl] at hrow

/-- Without an opening bracket nothing is added. -/
theorem of_notMem (hx : '<' ∉ x) : Adds ('<' :: front) back x [] := by
  intro y
  induction x with
  | nil => simp
  | cons c x ih =>
    obtain ⟨hc, hx⟩ := not_or.mp (List.mem_cons.not.mp hx)
    have hstrip : Text.stripStart? ('<' :: front) (c :: (x ++ y)) = none := if_neg hc
    rw [List.cons_append, enclosed?, hstrip]
    exact ih hx

/-- A tag adds nothing if `front` does not begin there. -/
theorem of_tag (htag : IsTag t) (hfront : ∀ y, ¬ '<' :: front <+: t ++ y) :
    Adds ('<' :: front) back t [] := by
  intro y
  have hopen := Text.stripStart?_eq_none_iff.mpr (hfront y)
  obtain ⟨inner, rfl, hinner⟩ := htag
  -- the tag has no bracket but the one in front
  have hrest : '<' ∉ inner ++ ['>'] := by
    intro hmem
    simp only [List.mem_append, List.mem_singleton, Char.reduceEq, or_false] at hmem
    exact hinner '<' hmem (by simp)
  rw [List.cons_append, enclosed?, ← List.cons_append, hopen]
  exact of_notMem hrest y

/-- What `front` and `back` enclose is added, if nothing in it is. -/
theorem enclosing (hfront : '<' ∉ front) (hne : back ≠ [])
    (hback : ¬ back <:+: content ++ back.dropLast)
    (hcontent : Adds ('<' :: front) back (content ++ back) []) :
    Adds ('<' :: front) back ('<' :: front ++ (content ++ back)) [content] := by
  intro y
  have hstrip : Text.stripStart? ('<' :: front) ('<' :: (front ++ (content ++ back) ++ y)) =
      some (content ++ back ++ y) := by
    rw [← Text.stripStart?_append ('<' :: front) (content ++ back ++ y)]
    simp only [List.cons_append, List.append_assoc]
  have hcut : Text.cut? back (content ++ back ++ y) = some (content, y) :=
    (Text.cut?_append_iff hne).mpr hback
  -- behind the bracket the part adds nothing more
  have hrest : enclosed? ('<' :: front) back (front ++ (content ++ back) ++ y) =
      (enclosed? ('<' :: front) back y).map ([] ++ [] ++ ·) :=
    (of_notMem hfront).append hcontent y
  rw [List.cons_append, List.cons_append, enclosed?, hstrip]
  simp only [hcut, hrest, Option.map_map]
  rfl

end Adds

/-! ### Elements -/

/-- At the beginning of a text with a tag in front stands no other tag. -/
theorem IsTag.eq_of_prefix_append {needle tag : Text} (h : IsTag needle) (htag : IsTag tag)
    (hbegins : needle <+: tag ++ y) : needle = tag := by
  -- the shorter one stands in the other, and so is the other
  rcases List.prefix_or_prefix_of_prefix hbegins (List.prefix_append tag y) with hshort | hshort
  · exact (h.infix_iff_eq htag).mp hshort.isInfix
  · exact ((htag.infix_iff_eq h).mp hshort.isInfix).symm

/-- In front of any text, `x` adds these elements. -/
abbrev AddsElements (name : String) (x : Text) (contents : List Text) : Prop :=
  Adds (openTag name) (closeTag name) x contents

/-- Elements of different names do not begin with the same tag. -/
theorem Apart.openTag_ne (h : Apart name other) :
    openTag name ≠ openTag other ∧ openTag name ≠ closeTag other := by
  have htags : ∀ a ∈ elementNames, ∀ b ∈ elementNames, a ≠ b →
      openTag a ≠ openTag b ∧ openTag a ≠ closeTag b := by decide
  exact htags name h.1 other h.2.1 h.2.2

namespace Adds

/-- A tag adds no element of another one. -/
theorem of_other_tag (hname : name ∈ elementNames) (htag : IsTag t) (hne : openTag name ≠ t) :
    AddsElements name t [] := by
  obtain ⟨hopen, -⟩ := isTag_of_elementName hname
  refine of_tag htag fun y hbegins => ?_
  exact hne (hopen.eq_of_prefix_append htag hbegins)

/-- A value adds no element. -/
theorem value (name : String) (v : Text) : AddsElements name (escape v) [] :=
  of_notMem (notMem_escape (by simp [markupChars]) v)

/-- An element of another name adds the elements of its content. -/
theorem inside (h : Apart name other) (hcontent : AddsElements name content cs) :
    AddsElements name (element other content) cs := by
  obtain ⟨hopen, hclose⟩ := isTag_of_elementName h.2.1
  have hfirst : AddsElements name (openTag other) [] := of_other_tag h.1 hopen h.openTag_ne.1
  have hlast : AddsElements name (closeTag other) [] := of_other_tag h.1 hclose h.openTag_ne.2
  have helement := hfirst.append (hcontent.append hlast)
  rwa [← element_eq, List.append_nil, List.nil_append] at helement

/-- A value in an element of another name adds no element. -/
theorem field (h : Apart name other) (v : Text) : AddsElements name (element other (escape v)) [] :=
  inside h (value name v)

/-- An element without one of the same name inside adds itself. -/
theorem itself (hname : name ∈ elementNames) (hencloses : Encloses name content)
    (hcontent : AddsElements name content []) :
    AddsElements name (element name content) [content] := by
  obtain ⟨hopen, hclose⟩ := isTag_of_elementName hname
  have htags : ∀ a ∈ elementNames, openTag a ≠ closeTag a ∧ '<' ∉ a.toList ++ ['>'] := by
    decide
  obtain ⟨hne, hbracket⟩ := htags name hname
  have hlast : AddsElements name (closeTag name) [] := of_other_tag hname hclose hne
  have hends : ¬ closeTag name <:+: content ++ (closeTag name).dropLast := by
    rwa [hclose.infix_append_dropLast hclose]
  rw [element_eq]
  exact enclosing hbracket hclose.ne_nil hends (hcontent.append hlast)

/-- A value in an element adds the element. -/
theorem itself_value (hname : name ∈ elementNames) (v : Text) :
    AddsElements name (element name (escape v)) [escape v] :=
  itself hname (.value hname v) (value name v)

end Adds

/-! ### Fragments -/

/-- The content of a servlet. -/
def servletContent (m : Mapping) : Text :=
  element "servlet-name" (escape m.servletName) ++ element "servlet-class" (escape m.typeName)

/-- The content of the route from a URL pattern to a servlet. -/
def routeContent (m : Mapping) (pattern : Text) : Text :=
  element "servlet-name" (escape m.servletName) ++ element "url-pattern" (escape pattern)

/-- The content of the constraint on the routes of a servlet. -/
def constraintContent (m : Mapping) : Text :=
  element "web-resource-collection"
      (element "web-resource-name" (escape m.servletName) ++
        m.patterns.flatMap fun p => element "url-pattern" (escape p)) ++
    element "auth-constraint" (element "role-name" guardRole)

/-- The names of the elements that make up the lines of a servlet fragment. -/
def outerNames : List String := ["servlet", "servlet-mapping", "security-constraint"]

/-- The names of the elements inside them. -/
def innerNames : List String :=
  ["servlet-name", "servlet-class", "url-pattern", "web-resource-collection", "web-resource-name",
    "auth-constraint", "role-name"]

/-- Outer and inner elements have different names. -/
theorem apart_of_outer (hname : name ∈ outerNames) (hother : other ∈ innerNames) :
    Apart name other := by
  have hall : ∀ name ∈ outerNames, ∀ other ∈ innerNames, Apart name other := by decide
  exact hall name hname other hother

namespace Adds

/-- No outer element is inside a servlet. -/
theorem servletContent (hname : name ∈ outerNames) (m : Mapping) :
    AddsElements name (servletContent m) [] := by
  have hservletName : Apart name "servlet-name" := apart_of_outer hname (by decide)
  have hservletClass : Apart name "servlet-class" := apart_of_outer hname (by decide)
  exact .append (.field hservletName m.servletName) (.field hservletClass m.typeName)

/-- No outer element is inside a route. -/
theorem routeContent (hname : name ∈ outerNames) (m : Mapping) (pattern : Text) :
    AddsElements name (routeContent m pattern) [] := by
  have hservletName : Apart name "servlet-name" := apart_of_outer hname (by decide)
  have hpattern : Apart name "url-pattern" := apart_of_outer hname (by decide)
  exact .append (.field hservletName m.servletName) (.field hpattern pattern)

/-- No outer element is inside a constraint. -/
theorem constraintContent (hname : name ∈ outerNames) (m : Mapping) :
    AddsElements name (constraintContent m) [] := by
  have hinner {other : String} (hother : other ∈ innerNames) : Apart name other :=
    apart_of_outer hname hother
  have hpatterns : AddsElements name
      (m.patterns.flatMap fun p => element "url-pattern" (escape p)) [] :=
    .flatMap_nil (fun p => .field (hinner (by decide)) p) m.patterns
  have hcollection : AddsElements name
      (element "web-resource-collection" (element "web-resource-name" (escape m.servletName) ++
        m.patterns.flatMap fun p => element "url-pattern" (escape p))) [] :=
    .inside (hinner (by decide)) (.append (.field (hinner (by decide)) _) hpatterns)
  have hrole : AddsElements name guardRole [] := .of_notMem (by decide)
  exact .append hcollection (.inside (hinner (by decide)) (.inside (hinner (by decide)) hrole))

/-- A fragment has the contents that its lines add. -/
theorem render {shape : Shape} {contents : Mapping → List (List Text)}
    (h : ∀ m, List.Forall₂ (Adds ('<' :: front) back) (shape.linesOf m) (contents m))
    (ms : List Mapping) (ending : LineEnding) :
    enclosed? ('<' :: front) back (shape.render ms ending) =
      some (ms.flatMap fun m => (contents m).flatten) := by
  have hindent : '<' ∉ shape.indent := by cases shape <;> simp [Shape.indent]
  have hending : '<' ∉ ending.text := by cases ending <;> simp [LineEnding.text]
  have hlines {lines : List Text} {css : List (List Text)}
      (hlines : List.Forall₂ (Adds ('<' :: front) back) lines css) :
      Adds ('<' :: front) back (lines.flatMap fun line => shape.indent ++ line ++ ending.text)
        css.flatten := by
    induction hlines with
    | nil => exact nil
    | cons hline _ ih =>
      -- a line stands between its indentation and its ending, which add nothing
      have hwritten := ((of_notMem hindent).append hline).append (of_notMem hending)
      rw [List.append_nil, List.nil_append] at hwritten
      exact hwritten.append ih
  have hmappings := flatMap (fun m => hlines (h m)) ms
  have hrender := ((of_notMem hending).append hmappings).append (of_notMem hindent)
  rw [← List.flatMap_assoc, List.nil_append, List.append_nil] at hrender
  exact hrender.enclosed?_eq

/-- In a servlet fragment each mapping adds a servlet with its routes, and what guards it. -/
theorem render_servletMappings (servlet guarding : Mapping → List Text)
    (route : Mapping → Text → List Text)
    (hservlet : ∀ m, AddsElements name (servletElement m) (servlet m))
    (hroute : ∀ m p, AddsElements name (mappingElement m p) (route m p))
    (hguarding : ∀ m, AddsElements name (constraintElement m) (guarding m))
    (constraints : Bool) (ms : List Mapping) (ending : LineEnding) :
    elementsIn? name ((Shape.servletMappings constraints).render ms ending) =
      some (ms.flatMap fun m => servlet m ++ m.patterns.flatMap (route m) ++
        if constraints && m.elevated then guarding m else []) := by
  have hlines (m : Mapping) : List.Forall₂ (AddsElements name)
      ((Shape.servletMappings constraints).linesOf m)
      ((servlet m ++ m.patterns.flatMap (route m)) ::
        if constraints && m.elevated then [guarding m] else []) := by
    refine .cons (.append (hservlet m) (.flatMap (hroute m) m.patterns)) ?_
    split
    · exact .cons (hguarding m) .nil
    · exact .nil
  refine (render hlines ms ending).trans (congrArg some (List.flatMap_congr fun m _ => ?_))
  split <;> simp

end Adds

variable (constraints : Bool) (ms : List Mapping) (ending : LineEnding)

/-- The servlets of a fragment are those of the mappings. -/
theorem elementsIn?_servlets :
    elementsIn? "servlet" ((Shape.servletMappings constraints).render ms ending) =
      some (ms.map servletContent) := by
  have hencloses (m : Mapping) : Encloses "servlet" (servletContent m) :=
    .append (by decide) (.field (by decide) _) (.field (by decide) _)
  have hservlet (m : Mapping) : AddsElements "servlet" (servletElement m) [servletContent m] :=
    .itself (by decide) (hencloses m) (.servletContent (by decide) m)
  have hroute (m : Mapping) (p : Text) : AddsElements "servlet" (mappingElement m p) [] :=
    .inside (by decide) (.routeContent (by decide) m p)
  have hguarding (m : Mapping) : AddsElements "servlet" (constraintElement m) [] :=
    .inside (by decide) (.constraintContent (by decide) m)
  rw [Adds.render_servletMappings _ _ _ hservlet hroute hguarding]
  have hnone (patterns : List Text) : patterns.flatMap (fun _ => ([] : List Text)) = [] :=
    List.flatMap_eq_nil_iff.mpr fun _ _ => rfl
  simp only [hnone, List.append_nil, ite_self, List.map_eq_flatMap]

/-- The routes of a fragment are those of the mappings, one for each URL pattern. -/
theorem elementsIn?_routes :
    elementsIn? "servlet-mapping" ((Shape.servletMappings constraints).render ms ending) =
      some (ms.flatMap fun m => m.patterns.map (routeContent m)) := by
  have hencloses (m : Mapping) (p : Text) : Encloses "servlet-mapping" (routeContent m p) :=
    .append (by decide) (.field (by decide) _) (.field (by decide) _)
  have hservlet (m : Mapping) : AddsElements "servlet-mapping" (servletElement m) [] :=
    .inside (by decide) (.servletContent (by decide) m)
  have hroute (m : Mapping) (p : Text) : AddsElements "servlet-mapping" (mappingElement m p)
      [routeContent m p] :=
    .itself (by decide) (hencloses m p) (.routeContent (by decide) m p)
  have hguarding (m : Mapping) : AddsElements "servlet-mapping" (constraintElement m) [] :=
    .inside (by decide) (.constraintContent (by decide) m)
  rw [Adds.render_servletMappings _ _ _ hservlet hroute hguarding]
  simp only [List.nil_append, List.append_nil, ite_self, List.map_eq_flatMap]

/-- The constraints of a fragment are those of the guarded mappings. -/
theorem elementsIn?_constraints :
    elementsIn? "security-constraint" ((Shape.servletMappings constraints).render ms ending) =
      some ((ms.filter fun m => constraints && m.elevated).map constraintContent) := by
  have hrole : Encloses "security-constraint"
      (element "auth-constraint" (element "role-name" guardRole)) := by
    unfold Encloses
    decide +kernel
  have hencloses (m : Mapping) : Encloses "security-constraint" (constraintContent m) :=
    .append (by decide) (.inside (by decide)
      (ServletLine.encloses_collection (by decide) (by decide) m.servletName m.patterns)) hrole
  have hservlet (m : Mapping) : AddsElements "security-constraint" (servletElement m) [] :=
    .inside (by decide) (.servletContent (by decide) m)
  have hroute (m : Mapping) (p : Text) : AddsElements "security-constraint" (mappingElement m p) [] :=
    .inside (by decide) (.routeContent (by decide) m p)
  have hguarding (m : Mapping) : AddsElements "security-constraint" (constraintElement m)
      [constraintContent m] :=
    .itself (by decide) (hencloses m) (.constraintContent (by decide) m)
  rw [Adds.render_servletMappings _ _ _ hservlet hroute hguarding]
  congr 1
  -- a mapping that is not guarded adds nothing
  induction ms with
  | nil => rfl
  | cons m ms ih =>
    rw [List.flatMap_cons, ih, List.filter_cons]
    split <;> simp

/-! ### Properties -/

/-- The beginning of a property, behind its bracket. -/
def propertyStart : Text := "property ".toList

/-- The end of a property. -/
def propertyEnd : Text := ['/', '>']

/-- The contents of the properties in a text. -/
def propertiesIn? (t : Text) : Option (List Text) :=
  enclosed? ('<' :: propertyStart) propertyEnd t

/-- The attributes that stand between quotation marks, each with its name. -/
def attributePairs : List Text → List (Text × Text)
  | name :: value :: rest =>
    (name.filter fun c => c ∉ [' ', '='], unescape value) :: attributePairs rest
  | _ => []

/-- The attributes of a tag. -/
def attributes (content : Text) : List (Text × Text) := attributePairs (Text.splitOn '"' content)

/-- The content of a property. -/
def propertyContent (m : Mapping) (pattern : Text) : Text :=
  "name=".toList ++ '"' :: (escape ("url:".toList ++ pattern) ++ '"' ::
    (" value=".toList ++ '"' :: (escape m.typeName ++ ['"'])))

/-- A property is its content between its two ends. -/
theorem propertyElement_eq_content (m : Mapping) (pattern : Text) :
    propertyElement m pattern =
      '<' :: propertyStart ++ (propertyContent m pattern ++ propertyEnd) := by
  have hfront : propertyFront =
      propertyStart ++ ("name=".toList ++ '"' :: escape "url:".toList) := by
    decide
  have hmiddle : propertyMiddle = '"' :: (" value=".toList ++ ['"']) := by decide
  have hescape : escape ("url:".toList ++ pattern) = escape "url:".toList ++ escape pattern :=
    List.flatMap_append
  rw [propertyContent, hescape, propertyElement_eq, hfront, hmiddle, propertyEnd]
  simp only [List.cons_append, List.append_assoc, List.nil_append]

/-- The values of a property bring no bracket into it. -/
theorem notMem_propertyContent {c : Char} (hc : c ∈ ['<', '>']) (m : Mapping) (pattern : Text) :
    c ∉ propertyContent m pattern := by
  have hmarkup : c ∈ markupChars := by
    simp only [List.mem_cons, List.not_mem_nil, or_false] at hc
    rcases hc with rfl | rfl <;> simp [markupChars]
  have hfixed : ∀ t ∈ ["name=".toList, " value=".toList, ['"']],
      (['<', '>'].all fun c => c ∉ t) = true := by decide
  have hpart {t : Text} (ht : t ∈ ["name=".toList, " value=".toList, ['"']]) : c ∉ t :=
    forall_mem_of_all (hfixed t ht) c hc
  have hquote : c ≠ '"' := by simpa using hpart (t := ['"']) (by simp)
  simp only [propertyContent, List.mem_append, List.mem_cons, List.not_mem_nil, or_false, not_or]
  exact ⟨hpart (by simp), hquote, notMem_escape hmarkup _, hquote, hpart (by simp), hquote,
    notMem_escape hmarkup _, hquote⟩

/-- The attributes of a property are the URL pattern with its prefix, and the type. -/
theorem attributes_propertyContent (m : Mapping) (pattern : Text) :
    attributes (propertyContent m pattern) =
      [("name".toList, "url:".toList ++ pattern), ("value".toList, m.typeName)] := by
  have hfixed : ∀ t ∈ ["name=".toList, " value=".toList], '"' ∉ t := by decide
  have hescape (v : Text) : '"' ∉ escape v := notMem_escape (by simp [markupChars]) v
  have hnames : "name=".toList.filter (fun c => c ∉ [' ', '=']) = "name".toList ∧
      " value=".toList.filter (fun c => c ∉ [' ', '=']) = "value".toList := by decide
  rw [attributes, propertyContent, Text.splitOn_append_cons (hfixed _ (by simp)),
    Text.splitOn_append_cons (hescape _), Text.splitOn_append_cons (hfixed _ (by simp)),
    Text.splitOn_append_cons (hescape _)]
  simp only [Text.splitOn, attributePairs, hnames.1, hnames.2, unescape_escape]

/-- The properties of a fragment are those of the mappings, one for each URL pattern. -/
theorem propertiesIn?_render :
    propertiesIn? (Shape.systemProperties.render ms ending) =
      some (ms.flatMap fun m => m.patterns.map (propertyContent m)) := by
  have hfound (m : Mapping) (p : Text) : Adds ('<' :: propertyStart) propertyEnd
      (propertyElement m p) [propertyContent m p] := by
    rw [propertyElement_eq_content, propertyEnd]
    refine .enclosing (by decide) (by simp)
      (Text.not_infix_of_mem_of_notMem (c := '>') (by simp) ?_) (.of_notMem ?_)
    · simpa using notMem_propertyContent (by simp) m p
    · simpa using notMem_propertyContent (by simp) m p
  have hlines (m : Mapping) : List.Forall₂ (Adds ('<' :: propertyStart) propertyEnd)
      (Shape.systemProperties.linesOf m) (m.patterns.map fun p => [propertyContent m p]) := by
    rw [Shape.linesOf, List.forall₂_map_left_iff, List.forall₂_map_right_iff, List.forall₂_same]
    exact fun p _ => hfound m p
  refine (Adds.render hlines ms ending).trans (congrArg some (List.flatMap_congr fun m _ => ?_))
  rw [← List.flatMap_def, List.map_eq_flatMap]

end ServletRoutes.Document
