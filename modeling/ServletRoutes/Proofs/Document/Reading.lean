import ServletRoutes.Proofs.Document.Fragment
import ServletRoutes.Proofs.Text.Decoding

/-!
# `ServletRoutes.Proofs.Document.Reading`: fragments read back

A fragment gives no lengths, so what stands in it has to be found by its
markup. This module reads fragments: values by `unescape`, elements by their
tags (`takeElement?`), servlet lines and properties by their elements, and
lines by their endings (`generatedLines`). The theorems:

* `unescape_escape`: a value is read as it was written.
* `takeElement?_element`: an element ends at its own closing tag, whatever
  values are in it and whatever follows it.
* `ServletLine.read?_text` / `property?_propertyText`: a generated line is
  read as it was written.
* `generatedLines_render`: the lines of a fragment are the generated ones.
-/

set_option autoImplicit false

namespace ServletRoutes.Document

open Route (Mapping)

variable {line content rest t x y : Text} {c : Char} {name other : String}

/-! ### Values -/

/-- The value that is written so. What is no written form of a character stands for itself. -/
def unescape : Text → Text
  | [] => []
  | '&' :: 'a' :: 'm' :: 'p' :: ';' :: t => '&' :: unescape t
  | '&' :: 'l' :: 't' :: ';' :: t => '<' :: unescape t
  | '&' :: 'g' :: 't' :: ';' :: t => '>' :: unescape t
  | '&' :: 'q' :: 'u' :: 'o' :: 't' :: ';' :: t => '"' :: unescape t
  | '&' :: '#' :: '1' :: '3' :: ';' :: t => '\r' :: unescape t
  | '&' :: '#' :: '1' :: '0' :: ';' :: t => '\n' :: unescape t
  | c :: t => c :: unescape t

/-- A written character is read as it was, whatever follows. -/
theorem unescape_escapeChar (c : Char) (t : Text) :
    unescape (escapeChar c ++ t) = c :: unescape t := by
  fun_cases escapeChar c with
  | case7 c hamp =>
    -- every written form begins with an ampersand, so this character is none of them
    rw [List.cons_append, List.nil_append, unescape] <;> exact fun _ h => absurd h hamp
  | _ => rfl

/-- A written value is read as it was. -/
theorem unescape_escape (value : Text) : unescape (escape value) = value := by
  induction value with
  | nil => rfl
  | cons c value ih =>
    show unescape (escapeChar c ++ escape value) = c :: value
    rw [unescape_escapeChar, ih]

/-! ### Elements -/

/-- Where every item is read as it was written, the list is. -/
theorem mapM_map {α β γ : Type} {write : α → β} {read? : β → Option γ} {value : α → γ}
    (h : ∀ a, read? (write a) = some (value a)) (as : List α) :
    (as.map write).mapM read? = some (as.map value) := by
  induction as with
  | nil => rfl
  | cons a as ih =>
    rw [List.map_cons, List.mapM_cons, h, ih]
    rfl

/-- The content of an element at the beginning of a text, up to its first closing tag, and what
follows the element. -/
def takeElement? (name : String) (t : Text) : Option (Text × Text) :=
  (Text.stripStart? (openTag name) t).bind (Text.cut? (closeTag name))

/-- An element takes up a part of the text. -/
theorem length_of_takeElement? (h : takeElement? name t = some (content, rest)) :
    rest.length < t.length := by
  obtain ⟨u, hu, hcut⟩ := Option.bind_eq_some_iff.mp h
  rw [Text.stripStart?_eq_some hu, Text.cut?_eq_some hcut]
  simp only [openTag, List.length_append, List.length_cons]
  omega

/-- The contents of the elements of one name that make up a text. -/
def elements? (name : String) (t : Text) : Option (List Text) :=
  if t = [] then some []
  else
    match _h : takeElement? name t with
    | none => none
    | some (content, rest) => (elements? name rest).map (content :: ·)
termination_by t.length
decreasing_by exact length_of_takeElement? _h

/-- One element is taken, and the others are read from what follows it. -/
theorem elements?_of_takeElement? (h : takeElement? name t = some (content, rest)) :
    elements? name t = (elements? name rest).map (content :: ·) := by
  have hne : t ≠ [] := by
    rintro rfl
    simpa using length_of_takeElement? h
  rw [elements?, if_neg hne]
  split
  next hnone => simp [hnone] at h
  next hsome =>
    rw [h] at hsome
    cases hsome
    rfl

/-- The values of two elements that make up a text. -/
def twoValues? (first second : String) (t : Text) : Option (Text × Text) :=
  (takeElement? first t).bind fun (a, rest) =>
    (takeElement? second rest).bind fun (b, rest) =>
      if rest = [] then some (unescape a, unescape b) else none

/-- The closing tag of an element with this name is not in the content, so the element does not end
before its content does. -/
def Encloses (name : String) (content : Text) : Prop := ¬ closeTag name <:+: content

/-- Two different names of elements. -/
def Apart (name other : String) : Prop :=
  name ∈ elementNames ∧ other ∈ elementNames ∧ name ≠ other

instance : Decidable (Apart name other) :=
  inferInstanceAs (Decidable (name ∈ elementNames ∧ other ∈ elementNames ∧ name ≠ other))

/-- Elements of different names have no tag in common. -/
theorem Apart.closeTag_ne (h : Apart name other) :
    closeTag name ≠ openTag other ∧ closeTag name ≠ closeTag other := by
  have htags : ∀ a ∈ elementNames, ∀ b ∈ elementNames, a ≠ b →
      closeTag a ≠ openTag b ∧ closeTag a ≠ closeTag b := by decide
  exact htags name h.1 other h.2.1 h.2.2

/-- An element is read as it was written, whatever follows. -/
theorem takeElement?_element (hname : name ∈ elementNames) (hcontent : Encloses name content)
    (rest : Text) : takeElement? name (element name content ++ rest) = some (content, rest) := by
  have hclose : IsTag (closeTag name) := (isTag_of_elementName hname).2
  rw [takeElement?, element_eq, List.append_assoc, Text.stripStart?_append, Option.bind_some,
    Text.cut?_append_iff hclose.ne_nil, hclose.infix_append_dropLast hclose]
  exact hcontent

namespace Encloses

/-- No value holds a closing tag. -/
theorem value (hname : name ∈ elementNames) (value : Text) : Encloses name (escape value) :=
  (isTag_of_elementName hname).2.not_infix_escape value

/-- An element of another name holds a closing tag only where its content does. -/
theorem inside (h : Apart name other) (hcontent : Encloses name content) :
    Encloses name (element other content) := by
  rw [Encloses, infix_element_iff (isTag_of_elementName h.1).2 h.2.1]
  rintro (htag | hmem | htag)
  · exact h.closeTag_ne.1 htag
  · exact hcontent hmem
  · exact h.closeTag_ne.2 htag

/-- A value in an element of another name holds no closing tag. -/
theorem field (h : Apart name other) (v : Text) : Encloses name (element other (escape v)) :=
  inside h (value h.1 v)

/-- No closing tag arises between an element and what follows it. -/
theorem append (h : Apart name other) (hfirst : Encloses name (element other content))
    (hrest : Encloses name rest) : Encloses name (element other content ++ rest) := by
  rw [Encloses, (isTag_of_elementName h.1).2.infix_append_of_getLast (getLast?_element _ _)]
  exact not_or.mpr ⟨hfirst, hrest⟩

/-- A row of values in elements of another name holds no closing tag. -/
theorem fields (h : Apart name other) (values : List Text) :
    Encloses name (values.flatMap fun v => element other (escape v)) := by
  induction values with
  | nil =>
    rw [Encloses, List.flatMap_nil, List.infix_nil]
    exact (isTag_of_elementName h.1).2.ne_nil
  | cons v values ih =>
    rw [List.flatMap_cons]
    exact append h (field h v) ih

end Encloses

/-- A row of elements is read as it was written. -/
theorem elements?_flatMap {α : Type} {items : List α} {contents : α → Text}
    (hname : name ∈ elementNames) (hitems : ∀ a, Encloses name (contents a)) :
    elements? name (items.flatMap fun a => element name (contents a)) =
      some (items.map contents) := by
  induction items with
  | nil => rw [List.flatMap_nil, elements?, if_pos rfl, List.map_nil]
  | cons a items ih =>
    rw [List.flatMap_cons, elements?_of_takeElement? (takeElement?_element hname (hitems a) _), ih,
      Option.map_some, List.map_cons]

/-- Two values are read as they were written. -/
theorem twoValues?_elements {first second : String} (hfirst : first ∈ elementNames)
    (hsecond : second ∈ elementNames) (a b : Text) :
    twoValues? first second (element first (escape a) ++ element second (escape b)) =
      some (a, b) := by
  have hlast := takeElement?_element hsecond (.value hsecond b) []
  rw [List.append_nil] at hlast
  simp only [twoValues?, takeElement?_element hfirst (.value hfirst a), Option.bind_some, hlast,
    if_true, unescape_escape]

/-! ### Lines of the servlet descriptor -/

/-- What a generated line of the servlet descriptor says. -/
inductive ServletLine
  /-- A servlet with its type, and the routes behind it, each with the servlet name it gives. -/
  | servlet (servletName typeName : Text) (routes : List (Text × Text))
  /-- The URL patterns that are kept for the administrator, under the name of a servlet. -/
  | constraint (servletName : Text) (patterns : List Text)
deriving DecidableEq

namespace ServletLine

/-- How a line is written. -/
def text : ServletLine → Text
  | servlet servletName typeName routes =>
    element "servlet" (element "servlet-name" (escape servletName) ++
        element "servlet-class" (escape typeName)) ++
      routes.flatMap fun route =>
        element "servlet-mapping" (element "servlet-name" (escape route.1) ++
          element "url-pattern" (escape route.2))
  | constraint servletName patterns =>
    element "security-constraint"
      (element "web-resource-collection"
          (element "web-resource-name" (escape servletName) ++
            patterns.flatMap fun p => element "url-pattern" (escape p)) ++
        element "auth-constraint" (element "role-name" guardRole))

/-- What the content of a servlet says together with the routes behind it. -/
def ofServlet? (content routes : Text) : Option ServletLine :=
  (twoValues? "servlet-name" "servlet-class" content).bind fun (servletName, typeName) =>
    ((elements? "servlet-mapping" routes).bind fun contents =>
      contents.mapM (twoValues? "servlet-name" "url-pattern")).map (servlet servletName typeName)

/-- What the content of a constraint says. -/
def ofConstraint? (content : Text) : Option ServletLine :=
  (takeElement? "web-resource-collection" content).bind fun (collection, _) =>
    (takeElement? "web-resource-name" collection).bind fun (servletName, rest) =>
      (elements? "url-pattern" rest).map fun patterns =>
        constraint (unescape servletName) (patterns.map unescape)

/-- What a line says, by its first element. -/
def read? (line : Text) : Option ServletLine :=
  match takeElement? "servlet" line with
  | some (content, routes) => ofServlet? content routes
  | none => (takeElement? "security-constraint" line).bind fun (content, _) => ofConstraint? content

/-- Routes are read as they were written. -/
theorem routes_text (routes : List (Text × Text)) :
    ((elements? "servlet-mapping" (routes.flatMap fun route =>
        element "servlet-mapping" (element "servlet-name" (escape route.1) ++
          element "url-pattern" (escape route.2)))).bind fun contents =>
      contents.mapM (twoValues? "servlet-name" "url-pattern")) = some routes := by
  have hroute (route : Text × Text) : Encloses "servlet-mapping"
      (element "servlet-name" (escape route.1) ++ element "url-pattern" (escape route.2)) :=
    .append (by decide) (.field (by decide) _) (.field (by decide) _)
  have hread (route : Text × Text) : twoValues? "servlet-name" "url-pattern"
      (element "servlet-name" (escape route.1) ++ element "url-pattern" (escape route.2)) =
        some (id route) :=
    twoValues?_elements (by decide) (by decide) route.1 route.2
  rw [elements?_flatMap (by decide) hroute, Option.bind_some, mapM_map hread, List.map_id]

/-- A servlet is read as it was written. -/
theorem read?_servlet (servletName typeName : Text) (routes : List (Text × Text)) :
    read? (servlet servletName typeName routes).text =
      some (servlet servletName typeName routes) := by
  have hservlet : Encloses "servlet" (element "servlet-name" (escape servletName) ++
      element "servlet-class" (escape typeName)) :=
    .append (by decide) (.field (by decide) _) (.field (by decide) _)
  have hfields : twoValues? "servlet-name" "servlet-class"
      (element "servlet-name" (escape servletName) ++ element "servlet-class" (escape typeName)) =
        some (servletName, typeName) :=
    twoValues?_elements (by decide) (by decide) _ _
  simp only [read?, text, takeElement?_element (by decide) hservlet, ofServlet?, hfields,
    Option.bind_some, routes_text, Option.map_some]

/-- The name and the patterns of a constraint hold no closing tag of what is around them. -/
theorem encloses_collection {outer : String} (hname : Apart outer "web-resource-name")
    (hpattern : Apart outer "url-pattern") (servletName : Text) (patterns : List Text) :
    Encloses outer (element "web-resource-name" (escape servletName) ++
      patterns.flatMap fun p => element "url-pattern" (escape p)) :=
  .append hname (.field hname _) (.fields hpattern _)

/-- The content of a constraint is read as it was written. -/
theorem ofConstraint?_collection (servletName : Text) (patterns : List Text) (rest : Text) :
    ofConstraint? (element "web-resource-collection"
        (element "web-resource-name" (escape servletName) ++
          patterns.flatMap fun p => element "url-pattern" (escape p)) ++ rest) =
      some (constraint servletName patterns) := by
  have hcollection : Encloses "web-resource-collection" _ :=
    encloses_collection (by decide) (by decide) servletName patterns
  have hname (rest : Text) : takeElement? "web-resource-name"
      (element "web-resource-name" (escape servletName) ++ rest) = some (escape servletName, rest) :=
    takeElement?_element (by decide) (.value (by decide) _) rest
  have hpatterns : elements? "url-pattern"
      (patterns.flatMap fun p => element "url-pattern" (escape p)) = some (patterns.map escape) :=
    elements?_flatMap (by decide) (.value (by decide))
  simp only [ofConstraint?, takeElement?_element (by decide) hcollection, Option.bind_some, hname,
    hpatterns, Option.map_some, unescape_escape, List.map_map, Function.comp_def, List.map_id']

/-- A constraint is read as it was written. -/
theorem read?_constraint (servletName : Text) (patterns : List Text) :
    read? (constraint servletName patterns).text = some (constraint servletName patterns) := by
  have hcollection : Encloses "security-constraint" (element "web-resource-collection" _) :=
    .inside (by decide) (encloses_collection (by decide) (by decide) servletName patterns)
  have hrole : Encloses "security-constraint"
      (element "auth-constraint" (element "role-name" guardRole)) := by
    unfold Encloses
    decide +kernel
  have hconstraint := takeElement?_element (by decide) (.append (by decide) hcollection hrole) []
  rw [List.append_nil] at hconstraint
  have hservlet : takeElement? "servlet" (constraint servletName patterns).text = none := rfl
  rw [read?, hservlet]
  simp only [text, hconstraint, Option.bind_some, ofConstraint?_collection]

/-- A line is read as it was written. -/
theorem read?_text (l : ServletLine) : read? l.text = some l := by
  cases l with
  | servlet servletName typeName routes => exact read?_servlet servletName typeName routes
  | constraint servletName patterns => exact read?_constraint servletName patterns

end ServletLine

/-! ### Properties -/

/-- How the property of a URL pattern and a type is written. -/
def propertyText (route : Text × Text) : Text :=
  ('<' :: propertyFront) ++ (escape route.1 ++ '"' :: (propertyMiddle.tail ++
    (escape route.2 ++ '"' :: ['/', '>'])))

/-- Of a mapping a property tells the type only. -/
theorem propertyElement_eq_propertyText (m : Mapping) (pattern : Text) :
    propertyElement m pattern = propertyText (pattern, m.typeName) := by
  have hmiddle : propertyMiddle = '"' :: propertyMiddle.tail := rfl
  rw [propertyElement_eq, hmiddle, propertyText]
  simp only [List.append_assoc, List.cons_append, List.nil_append]

/-- The URL pattern and the type of a property that makes up a line. -/
def property? (line : Text) : Option (Text × Text) :=
  (Text.stripStart? ('<' :: propertyFront) line).bind fun t =>
    (Text.cut? ['"'] t).bind fun (pattern, t) =>
      (Text.stripStart? propertyMiddle.tail t).bind fun t =>
        (Text.cut? ['"'] t).map fun (typeName, _) => (unescape pattern, unescape typeName)

/-- A value ends at the quotation mark behind it. -/
theorem cut?_escape (value rest : Text) :
    Text.cut? ['"'] (escape value ++ '"' :: rest) = some (escape value, rest) := by
  rw [List.append_cons, Text.cut?_append_iff (by simp), List.dropLast_singleton, List.append_nil]
  exact Text.not_infix_of_mem_of_notMem List.mem_cons_self
    (notMem_escape (by simp [markupChars]) value)

/-- A property is read as it was written. -/
theorem property?_propertyText (route : Text × Text) :
    property? (propertyText route) = some route := by
  rw [property?, propertyText, Text.stripStart?_append, Option.bind_some]
  simp only [cut?_escape, Option.bind_some, Text.stripStart?_append, Option.map_some,
    unescape_escape]

/-! ### Lines of a fragment -/

/-- A line without its indentation and without the carriage return of its ending. -/
def bareLine (line : Text) : Text :=
  let t := line.dropWhile fun c => c = ' '
  if t.getLast? = some '\r' then t.dropLast else t

/-- The lines of a fragment between its first line ending and its last indentation. -/
def generatedLines (fragment : Text) : List Text :=
  (Text.splitOn '\n' fragment).tail.dropLast.map bareLine

/-- Of a line that opens with a bracket and has no line break only indentation and ending are
taken away. -/
theorem bareLine_append (n : Nat) (hhead : line.head? = some '<') (hbreak : '\r' ∉ line) :
    bareLine (List.replicate n ' ' ++ line) = line ∧
      bareLine (List.replicate n ' ' ++ line ++ ['\r']) = line := by
  have hdrop (rest : Text) :
      (List.replicate n ' ' ++ line ++ rest).dropWhile (fun c => c = ' ') = line ++ rest := by
    cases line with
    | nil => simp at hhead
    | cons c line =>
      obtain rfl : c = '<' := by simpa using hhead
      rw [List.append_assoc, List.dropWhile_append_of_pos (by simp)]
      rfl
  have hlast : line.getLast? ≠ some '\r' := fun h => hbreak (List.mem_of_getLast? h)
  constructor
  · have hbare := hdrop []
    rw [List.append_nil, List.append_nil] at hbare
    simp only [bareLine, hbare, if_neg hlast]
  · simp only [bareLine, hdrop, List.getLast?_concat, if_true, List.dropLast_concat]

/-- The pieces of lines that end in one character, and of what follows the last line. -/
theorem splitOn_flatMap {lines : List Text} (hlines : ∀ line ∈ lines, c ∉ line) (hrest : c ∉ rest) :
    Text.splitOn c ((lines.flatMap fun line => line ++ [c]) ++ rest) = lines ++ [rest] := by
  induction lines with
  | nil => exact Text.splitOn_of_notMem hrest
  | cons line lines ih =>
    rw [List.flatMap_cons, List.append_assoc, List.append_assoc, List.singleton_append,
      Text.splitOn_append_cons (hlines line List.mem_cons_self),
      ih fun l hl => hlines l (List.mem_cons_of_mem line hl), List.cons_append]

/-- The lines of a fragment are the generated ones. -/
theorem generatedLines_render (shape : Shape) (ms : List Mapping) (ending : LineEnding) :
    generatedLines (shape.render ms ending) = ms.flatMap shape.linesOf := by
  obtain ⟨n, hindent⟩ : ∃ n, shape.indent = List.replicate n ' ' := by
    cases shape with
    | servletMappings constraints => exact ⟨4, rfl⟩
    | systemProperties => exact ⟨8, rfl⟩
  obtain ⟨back, hback, hending⟩ : ∃ back, (back = [] ∨ back = ['\r']) ∧
      ending.text = back ++ ['\n'] := by
    cases ending with
    | lf => exact ⟨[], .inl rfl, rfl⟩
    | crlf => exact ⟨['\r'], .inr rfl, rfl⟩
  have hbreak : ∀ line ∈ ms.flatMap shape.linesOf, line.head? = some '<' ∧ '\r' ∉ line ∧
      '\n' ∉ line := by
    intro line hline
    obtain ⟨m, -, hline⟩ := List.mem_flatMap.mp hline
    exact ⟨head?_linesOf hline, break_notMem_linesOf (.inl rfl) hline,
      break_notMem_linesOf (.inr rfl) hline⟩
  rw [Shape.render]
  generalize ms.flatMap shape.linesOf = lines at hbreak ⊢
  -- the first line ending closes a line of its own
  have hpieces : ending.text ++ (lines.flatMap fun line => shape.indent ++ line ++ ending.text) =
      (back :: lines.map fun line => shape.indent ++ line ++ back).flatMap (· ++ ['\n']) := by
    simp only [hending, List.flatMap_cons, List.flatMap_map, List.append_assoc]
  have hfeed : ∀ piece ∈ back :: lines.map fun line => shape.indent ++ line ++ back,
      '\n' ∉ piece := by
    have hback' : '\n' ∉ back := by rcases hback with rfl | rfl <;> decide
    intro piece hpiece
    rcases List.mem_cons.mp hpiece with rfl | hpiece
    · exact hback'
    · obtain ⟨line, hline, rfl⟩ := List.mem_map.mp hpiece
      simp [hindent, (hbreak line hline).2.2, hback']
  rw [generatedLines, hpieces, splitOn_flatMap hfeed (by simp [hindent]), List.cons_append,
    List.tail_cons, List.dropLast_concat, List.map_map]
  refine (List.map_congr_left fun line hline => ?_).trans (List.map_id lines)
  obtain ⟨hhead, hreturn, -⟩ := hbreak line hline
  obtain ⟨hbare, hbare'⟩ := bareLine_append n hhead hreturn
  rcases hback with rfl | rfl
  · simpa [hindent] using hbare
  · simpa [hindent] using hbare'

end ServletRoutes.Document
