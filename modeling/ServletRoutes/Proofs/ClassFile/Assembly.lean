import ServletRoutes.Proofs.ClassFile.Descriptor
import ServletRoutes.Proofs.ClassFile.Reading

/-!
# `ServletRoutes.Proofs.ClassFile.Assembly`: assembled classes are parsed back

While a class is assembled its pool only grows at the end, so an index that
was given out once means the same constant in the final pool. `Builds` says
this of a step together with what holds of the step's result in every final
pool, and goes from the parts of an assembler to the whole. With it,
`builds_body` says that all that is looked up in the final pool is what was
described, and `parse_bytes` that parsing undoes assembling.
-/

set_option autoImplicit false

namespace ServletRoutes.ClassFile

variable {α β : Type}

/-! ### Final pools -/

/-- Some bytes are an entry of one slot. -/
def IsEntry (bytes : Bytes) : Prop := ∃ c, IsEntryOf bytes c

/-- Entries that are right by themselves have constants, one for each. -/
theorem exists_constants {entries : List Bytes} (h : ∀ bytes ∈ entries, IsEntry bytes) :
    ∃ constants, List.Forall₂ IsEntryOf entries constants := by
  induction entries with
  | nil => exact ⟨[], .nil⟩
  | cons bytes entries ih =>
    rw [List.forall_mem_cons] at h
    obtain ⟨c, hc⟩ := h.1
    obtain ⟨constants, hconstants⟩ := ih h.2
    exact ⟨c :: constants, .cons hc hconstants⟩

/-- The entries of a pool with their constants. -/
structure FinalPool where
  entries : List Bytes
  constants : List Constant
  reads : List.Forall₂ IsEntryOf entries constants
  length_lt : entries.length < 0xFFFF

namespace FinalPool

variable {final : FinalPool} {entry : Bytes} {c : Constant}

/-- The slots as a class file is read with them. -/
def slots (final : FinalPool) : ConstantPool := final.constants.map some

/-- The index of an entry. -/
def indexOf (final : FinalPool) (entry : Bytes) : Nat := final.entries.idxOf entry + 1

/-- The index of an entry that is there fits two bytes. -/
theorem indexOf_lt (h : entry ∈ final.entries) : final.indexOf entry < 0x10000 := by
  have hlt := List.idxOf_lt_length_of_mem h
  have hlength := final.length_lt
  rw [indexOf]
  omega

/-- At the index of an entry stands its constant. -/
theorem constant_indexOf (h : entry ∈ final.entries) (hread : IsEntryOf entry c) :
    final.slots.constant (final.indexOf entry) = .ok c := by
  have hlt := List.idxOf_lt_length_of_mem h
  have hlt' : final.entries.idxOf entry < final.constants.length := by
    rwa [← final.reads.length_eq]
  have hfound : IsEntryOf entry (final.constants.get ⟨final.entries.idxOf entry, hlt'⟩) := by
    have hget := final.reads.get hlt hlt'
    rwa [List.get_eq_getElem, List.getElem_idxOf hlt] at hget
  -- the same bytes are the entry of one constant only
  have heq := Reads.unique hread hfound
  simp only [List.cons.injEq, Option.some.injEq, and_true] at heq
  rw [indexOf, ConstantPool.constant, slots, List.getElem?_map,
    List.getElem?_eq_getElem hlt', heq]
  rfl

end FinalPool

/-! ### Steps of an assembler -/

/-- A step lets the pool grow at its end, by entries, and what it builds is right in every final
pool. -/
structure Builds (assembler : Assembler α) (right : FinalPool → α → Prop) : Prop where
  grows : ∀ pool, pool <+: (assembler.run pool).2
  areEntries : ∀ pool, (∀ entry ∈ pool, IsEntry entry) →
    ∀ entry ∈ (assembler.run pool).2, IsEntry entry
  result : ∀ pool (final : FinalPool), (assembler.run pool).2 <+: final.entries →
    right final (assembler.run pool).1

namespace Builds

variable {assembler : Assembler α} {next : α → Assembler β} {right : FinalPool → α → Prop}
  {right' : FinalPool → β → Prop}

/-- A value that is right in every pool is built without adding to it. -/
theorem pure {a : α} (h : ∀ final, right final a) : Builds (Pure.pure a) right where
  grows _ := List.prefix_refl _
  areEntries _ hpool := hpool
  result _ final _ := h final

/-- What the first step built is still right when the second one is done. -/
theorem bind (h : Builds assembler right)
    (hnext : ∀ a, Builds (next a) fun final b => right final a → right' final b) :
    Builds (assembler >>= next) right' where
  grows pool := (h.grows pool).trans ((hnext _).grows _)
  areEntries pool hpool := (hnext _).areEntries _ (h.areEntries pool hpool)
  result pool final hfinal :=
    (hnext _).result _ final hfinal (h.result pool final (((hnext _).grows _).trans hfinal))

/-- A last step that needs no pool. -/
theorem map (h : Builds assembler right) (f : α → β)
    (hf : ∀ final a, right final a → right' final (f a)) :
    Builds (assembler >>= fun a => Pure.pure (f a)) right' :=
  h.bind fun a => .pure fun final ha => hf final a ha

/-- What is built right is right in each weaker sense. -/
theorem imp {right'' : FinalPool → α → Prop} (h : Builds assembler right)
    (himp : ∀ final a, right final a → right'' final a) : Builds assembler right'' where
  grows := h.grows
  areEntries := h.areEntries
  result pool final hfinal := himp final _ (h.result pool final hfinal)

/-- Several things are built one after the other. -/
theorem mapM {γ : Type} {items : List γ} {f : γ → Assembler α}
    {rightOf : γ → FinalPool → α → Prop} (h : ∀ item ∈ items, Builds (f item) (rightOf item)) :
    Builds (items.mapM f) fun final as =>
      List.Forall₂ (fun item a => rightOf item final a) items as := by
  induction items with
  | nil => exact .pure fun _ => .nil
  | cons item items ih =>
    rw [List.forall_mem_cons] at h
    rw [List.mapM_cons]
    refine h.1.bind fun a => ?_
    exact (ih h.2).map _ fun final as has ha => .cons ha has

end Builds

/-! ### Constants -/

namespace Assembler

/-- An entry that is there is not added again. -/
theorem run_add_of_mem {entry : Bytes} {pool : List Bytes} (h : entry ∈ pool) :
    (add entry).run pool = (pool.idxOf entry + 1, pool) := if_pos h

/-- An entry that is not there is added at the end. -/
theorem run_add_of_notMem {entry : Bytes} {pool : List Bytes} (h : entry ∉ pool) :
    (add entry).run pool = (pool.length + 1, pool ++ [entry]) := if_neg h

/-- An entry keeps its index. -/
theorem builds_add {entry : Bytes} (h : IsEntry entry) :
    Builds (add entry) fun final index =>
      entry ∈ final.entries ∧ index = final.indexOf entry where
  grows pool := by
    by_cases hmem : entry ∈ pool
    · simp only [run_add_of_mem hmem, List.prefix_refl]
    · simp only [run_add_of_notMem hmem, List.prefix_append]
  areEntries pool hpool := by
    by_cases hmem : entry ∈ pool
    · rwa [run_add_of_mem hmem]
    · rw [run_add_of_notMem hmem]
      intro other hother
      rcases List.mem_append.mp hother with hother | hother
      · exact hpool other hother
      · obtain rfl := List.mem_singleton.mp hother
        exact h
  result pool final hfinal := by
    -- what is put in later stands behind, so the first occurrence stays where it is
    by_cases hmem : entry ∈ pool
    · rw [run_add_of_mem hmem] at hfinal ⊢
      obtain ⟨more, hmore⟩ := hfinal
      rw [FinalPool.indexOf, ← hmore, List.idxOf_append_of_mem hmem]
      exact ⟨List.mem_append_left _ hmem, rfl⟩
    · rw [run_add_of_notMem hmem] at hfinal ⊢
      obtain ⟨more, hmore⟩ := hfinal
      rw [FinalPool.indexOf, ← hmore, List.append_assoc, List.idxOf_append_of_notMem hmem,
        List.singleton_append, List.idxOf_cons_self]
      exact ⟨by simp, rfl⟩

/-- The index of a text leads to the text. -/
theorem builds_addText {text : Text} (h : isConstant text = true) :
    Builds (addText text) fun final index =>
      index < 0x10000 ∧ 0 < index ∧ final.slots.utf8 index = .ok text := by
  have hread := ConstantPool.isEntryOf_textEntry h
  refine (builds_add ⟨_, hread⟩).imp fun final index hindex => ?_
  obtain ⟨hmem, rfl⟩ := hindex
  refine ⟨FinalPool.indexOf_lt hmem, Nat.succ_pos _, ?_⟩
  rw [ConstantPool.utf8, FinalPool.constant_indexOf hmem hread]

/-- The index of an integer leads to its bits. -/
theorem builds_addInteger (n : Int32) :
    Builds (addInteger n) fun final index =>
      index < 0x10000 ∧ index = final.indexOf (integerEntry n) ∧
        final.slots.integer index = .ok n.toUInt32.toNat := by
  have hread := ConstantPool.isEntryOf_integerEntry n
  refine (builds_add ⟨_, hread⟩).imp fun final index hindex => ?_
  obtain ⟨hmem, rfl⟩ := hindex
  refine ⟨FinalPool.indexOf_lt hmem, rfl, ?_⟩
  rw [ConstantPool.integer, FinalPool.constant_indexOf hmem hread]

/-- The index of a class leads to its name. -/
theorem builds_addClass {name : Text} (h : isConstant name = true) :
    Builds (addClass name) fun final index =>
      index < 0x10000 ∧ 0 < index ∧ final.slots.className index = .ok name := by
  refine (builds_addText h).bind fun nameIndex => ?_
  have hread := ConstantPool.isEntryOf_classEntry nameIndex
  refine (builds_add ⟨_, hread⟩).imp fun final index hindex hname => ?_
  obtain ⟨hmem, rfl⟩ := hindex
  obtain ⟨hlt, -, hname⟩ := hname
  refine ⟨FinalPool.indexOf_lt hmem, Nat.succ_pos _, ?_⟩
  rw [ConstantPool.className, FinalPool.constant_indexOf hmem hread, Nat.mod_eq_of_lt hlt]
  exact hname

/-- No index is zero but that of none. -/
theorem builds_addClass? {name? : Option Text} (h : name?.all isConstant = true) :
    Builds (addClass? name?) fun final index => index < 0x10000 ∧
      List.Forall₂ (fun name i => final.slots.className i = .ok name) name?.toList
        (if index = 0 then [] else [index]) := by
  cases name? with
  | none => exact .pure fun final => ⟨by decide, .nil⟩
  | some name =>
    refine (builds_addClass h).imp fun final index hindex => ⟨hindex.1, ?_⟩
    rw [if_neg (Nat.ne_of_gt hindex.2.1)]
    exact .cons hindex.2.2 .nil

end Assembler

/-! ### Elements -/

namespace MemberValue

mutual

/-- The element of a value fits and has the value. -/
theorem builds_element (item : MemberValue) (h : item.isWellFormed = true) :
    Builds item.element fun final element =>
      element.Fits ∧ element.value final.slots = .ok (item.readAs final.entries) := by
  cases item with
  | string content =>
    rw [element]
    refine (Assembler.builds_addText h).map _ fun final index hindex => ?_
    obtain ⟨hlt, -, hutf8⟩ := hindex
    refine ⟨hlt, ?_⟩
    rw [Element.value, hutf8]
    rfl
  | boolean value =>
    rw [element]
    refine (Assembler.builds_addInteger _).map _ fun final index hindex => ?_
    obtain ⟨hlt, -, hinteger⟩ := hindex
    refine ⟨hlt, ?_⟩
    rw [Element.value, hinteger]
    cases value <;> rfl
  | int value =>
    rw [element]
    refine (Assembler.builds_addInteger _).map _ fun final index hindex => ?_
    obtain ⟨hlt, rfl, -⟩ := hindex
    exact ⟨hlt, rfl⟩
  | enumConstant type constant =>
    rw [element]
    simp only [isWellFormed, Bool.and_eq_true] at h
    obtain ⟨⟨htype, hdescriptor⟩, hconstant⟩ := h
    refine (Assembler.builds_addText hdescriptor).bind fun typeName => ?_
    refine (Assembler.builds_addText hconstant).map _ fun final index hindex htypeName => ?_
    -- both entries stay where they are, whatever is added later
    obtain ⟨hlt, -, hutf8⟩ := hindex
    obtain ⟨hlt', -, hutf8'⟩ := htypeName
    refine ⟨⟨hlt', hlt⟩, ?_⟩
    rw [Element.value, hutf8', Except.bind, type.nameOfDescriptor_descriptor htype, hutf8]
    rfl
  | classLiteral type =>
    rw [element]
    simp only [isWellFormed, Bool.and_eq_true] at h
    refine (Assembler.builds_addText h.2).map _ fun final index hindex => ?_
    obtain ⟨hlt, -, hutf8⟩ := hindex
    refine ⟨hlt, ?_⟩
    rw [Element.value, hutf8, Except.bind, type.nameOfDescriptor_descriptor h.1]
    rfl
  | array items =>
    rw [element]
    simp only [isWellFormed, Bool.and_eq_true, decide_eq_true_eq] at h
    refine (builds_elements items h.2).map _ fun final elements helements => ?_
    obtain ⟨hlength, hfit, hvalues⟩ := helements
    refine ⟨⟨hlength ▸ h.1, hfit⟩, ?_⟩
    rw [Element.value, hvalues]
    rfl

/-- Elements are built for the items of an array, and lead to the values of the items. -/
theorem builds_elements (items : List MemberValue) (h : areWellFormed items = true) :
    Builds (elements items) fun final elements =>
      elements.length = items.length ∧ Element.ItemsFit elements ∧
        Element.values final.slots elements = .ok (allReadAs final.entries items) := by
  cases items with
  | nil => exact .pure fun _ => ⟨rfl, trivial, rfl⟩
  | cons item items =>
    rw [elements]
    simp only [areWellFormed, Bool.and_eq_true] at h
    refine (builds_element item h.1).bind fun first => ?_
    refine (builds_elements items h.2).map _ fun final rest hrest hfirst => ?_
    obtain ⟨hlength, hfit, hvalues⟩ := hrest
    refine ⟨congrArg (· + 1) hlength, ⟨hfirst.1, hfit⟩, ?_⟩
    rw [Element.values, hfirst.2, hvalues]
    rfl

end

end MemberValue

namespace AnnotationDescription

/-- A member by its indices has the name and the value that were described. -/
structure MemberRight (final : FinalPool) (described : Text × MemberValue) (member : Nat × Element) :
    Prop where
  name_lt : member.1 < 0x10000
  name : final.slots.utf8 member.1 = .ok described.1
  fits : member.2.Fits
  value : member.2.value final.slots = .ok (described.2.readAs final.entries)

/-- Members that are right one by one are right together. -/
theorem members_right {final : FinalPool} {described : List (Text × MemberValue)}
    {members : List (Nat × Element)} (h : List.Forall₂ (MemberRight final) described members) :
    Element.MembersFit members ∧ Entry.memberValues final.slots members =
      .ok (described.map fun (name, value) => (name, value.readAs final.entries)) := by
  induction h with
  | nil => exact ⟨trivial, rfl⟩
  | cons h _ ih =>
    refine ⟨⟨h.name_lt, h.fits, ih.1⟩, ?_⟩
    rw [Entry.memberValues, h.name]
    simp only [h.value, ih.2]
    rfl

/-- An annotation is built that leads to what was described. -/
theorem builds_entry {described : AnnotationDescription} (h : described.isWellFormed = true) :
    Builds described.entry fun final entry =>
      entry.Fits ∧ entry.declared final.slots = .ok (described.readAs final.entries) := by
  simp only [isWellFormed, Bool.and_eq_true, decide_eq_true_eq, List.all_eq_true] at h
  obtain ⟨⟨⟨htype, hdescriptor⟩, hlength⟩, hmembers⟩ := h
  have hmember : ∀ member ∈ described.members,
      Builds (do
        let nameIndex ← Assembler.addText member.1
        return (nameIndex, ← member.2.element))
        fun final built => MemberRight final member built := by
    intro member hmember
    refine (Assembler.builds_addText (hmembers member hmember).1).bind fun nameIndex => ?_
    refine (member.2.builds_element (hmembers member hmember).2).map _
      fun final element helement hname => ?_
    exact ⟨hname.1, hname.2.2, helement.1, helement.2⟩
  refine (Assembler.builds_addText hdescriptor).bind fun typeName => ?_
  refine (Builds.mapM hmember).map _ fun final members hmembers htypeName => ?_
  obtain ⟨hfit, hvalues⟩ := members_right hmembers
  refine ⟨⟨htypeName.1, hmembers.length_eq ▸ hlength, hfit⟩, ?_⟩
  rw [Entry.declared, htypeName.2.2, Except.bind,
    described.type.nameOfDescriptor_descriptor htype]
  simp only [hvalues]
  rfl

end AnnotationDescription

/-! ### Classes -/

/-- Where each result is a success, so is the list of all. -/
theorem all_eq_ok {f : α → Except Fault β} {as : List α} {bs : List β}
    (h : List.Forall₂ (fun b a => f a = .ok b) bs as) : all f as = .ok bs := by
  induction h with
  | nil => rfl
  | cons h _ ih =>
    rw [all, h, ih]
    rfl

/-- A class file tells what is found at its indices. -/
theorem record_eq_ok {c : ClassFile} {name : Text} {supertypes : List Text}
    {annotations : List Annotations.Declared} (hname : c.nameAt c.thisClass = .ok name)
    (hsupertypes : List.Forall₂ (fun name i => c.nameAt i = .ok name) supertypes
      (if c.superClass = 0 then c.interfaces else c.superClass :: c.interfaces))
    (hannotations : List.Forall₂ (fun declared entry => entry.declared c.pool = .ok declared)
      annotations c.annotations) :
    c.record = .ok ⟨⟨name, supertypes⟩, annotations⟩ := by
  rw [record, hname, all_eq_ok hsupertypes, all_eq_ok hannotations]
  rfl

namespace ClassDescription

variable {d : ClassDescription}

/-- The class as the parser reads it with a final pool. -/
def fileOf (final : FinalPool) (body : Body) : ClassFile :=
  ⟨final.slots, body.thisClass, body.superClass, body.interfaces,
    (body.attributes.map (·.2)).flatten⟩

/-- The attributes are visible annotations, and these were described. -/
structure AttributesRight (d : ClassDescription) (final : FinalPool)
    (attributes : List (Nat × List Entry)) : Prop where
  length_le : attributes.length ≤ 1
  name : ∀ item ∈ attributes, item.1 < 0x10000 ∧
    final.slots.utf8 item.1 = .ok "RuntimeVisibleAnnotations".toList
  entries : ∀ item ∈ attributes, item.2.length < 0x10000 ∧ ∀ entry ∈ item.2, entry.Fits
  declared : List.Forall₂ (fun described entry => entry.declared final.slots = .ok described)
    (d.annotations.map (AnnotationDescription.readAs final.entries))
    (attributes.map (·.2)).flatten

/-- Attributes are built that lead to the annotations described. -/
theorem builds_attributes (hlength : d.annotations.length < 0x10000)
    (h : ∀ described ∈ d.annotations, described.isWellFormed = true) :
    Builds d.attributes d.AttributesRight := by
  rw [attributes]
  split
  next hempty =>
    -- without annotations there is no attribute, and nothing is added to the pool
    refine .pure fun final => ⟨Nat.zero_le _, by simp, by simp, ?_⟩
    rw [List.isEmpty_iff.mp hempty]
    exact .nil
  next hsome =>
    refine (Assembler.builds_addText (by decide +kernel)).bind fun nameIndex => ?_
    refine (Builds.mapM fun described hdescribed =>
      AnnotationDescription.builds_entry (h described hdescribed)).map _
      fun final entries hentries hname => ?_
    have hfit : ∀ entry ∈ entries, entry.Fits :=
      ((List.forall₂_and_left _ _).mp hentries.flip).1
    have hdeclared : List.Forall₂ (fun described entry =>
        entry.declared final.slots = .ok (described.readAs final.entries)) d.annotations entries :=
      hentries.imp fun _ _ h => h.2
    have hcount : entries.length < 0x10000 := hentries.length_eq ▸ hlength
    refine ⟨Nat.le_refl _, List.forall_mem_singleton.mpr ⟨hname.1, hname.2.2⟩,
      List.forall_mem_singleton.mpr ⟨hcount, hfit⟩, ?_⟩
    rw [List.forall₂_map_left_iff]
    simpa using hdeclared

/-- The parser looks for a superclass where its index is not zero. -/
theorem supertypes_right {right : Text → Nat → Prop} {super? : Option Text} {index : Nat}
    {interfaces : List Text} {indices : List Nat}
    (hsuper : List.Forall₂ right super?.toList (if index = 0 then [] else [index]))
    (hinterfaces : List.Forall₂ right interfaces indices) :
    List.Forall₂ right (super?.toList ++ interfaces)
      (if index = 0 then indices else index :: indices) := by
  have happend := List.rel_append hsuper hinterfaces
  split
  next hzero => rwa [if_pos hzero] at happend
  next hzero => rwa [if_neg hzero] at happend

/-- All that stands after the pool fits, and looking it up gives what was described. -/
theorem builds_body (h : d.isWellFormed = true) :
    Builds d.body fun final body =>
      body.Fits final.slots ∧ (fileOf final body).record = .ok (d.readAs final.entries) := by
  simp only [isWellFormed, Bool.and_eq_true, decide_eq_true_eq, List.all_eq_true] at h
  obtain ⟨⟨⟨⟨hthis, hsuper⟩, hcount, hinterfaces⟩, hcount', hannotations⟩, -⟩ := h
  refine (Assembler.builds_addClass hthis).bind fun thisClass => ?_
  refine (Assembler.builds_addClass? hsuper).bind fun superClass => ?_
  refine (Builds.mapM fun name hname => Assembler.builds_addClass (hinterfaces name hname)).bind
    fun interfaces => ?_
  refine (builds_attributes hcount' hannotations).map _
    fun final attributes hattributes hinterfaces hsuper hthis => ?_
  -- the pool is final here, so every index leads to what it was made for
  have hbounded : ∀ index ∈ interfaces, index < 0x10000 :=
    ((List.forall₂_and_left _ _).mp hinterfaces.flip).1
  refine ⟨⟨hthis.1, hsuper.1, ⟨hinterfaces.length_eq ▸ hcount, hbounded⟩,
    Nat.lt_of_le_of_lt hattributes.length_le (by decide), hattributes.name, hattributes.entries⟩,
    ?_⟩
  have hnameAt {name : Text} {i : Nat} (hclass : final.slots.className i = .ok name) :
      (final.slots.className i).map binaryName = .ok (binaryName name) := by
    rw [hclass]
    rfl
  refine record_eq_ok (hnameAt hthis.2.2) ?_ hattributes.declared
  rw [List.forall₂_map_left_iff]
  exact (supertypes_right hsuper.2 (hinterfaces.imp fun _ _ h => h.2.2)).imp
    fun _ _ hclass => hnameAt hclass

/-- The pool of a description is read as constants. -/
theorem exists_finalPool (h : d.isWellFormed = true) :
    ∃ final : FinalPool, final.entries = d.pool := by
  obtain ⟨constants, hconstants⟩ := exists_constants ((builds_body h).areEntries [] (by simp))
  simp only [isWellFormed, Bool.and_eq_true, decide_eq_true_eq] at h
  exact ⟨⟨d.pool, constants, hconstants, h.2⟩, rfl⟩

/-- Parsing undoes assembling. A described class that can be laid out is parsed as what was described:
its name, its superclass and its interfaces in order, and its annotations with all their members in
order. -/
theorem parse_bytes (d : ClassDescription) (h : d.isWellFormed = true) :
    parse d.bytes = .ok d.record := by
  obtain ⟨final, hfinal⟩ := exists_finalPool h
  obtain ⟨hfits, hrecord⟩ := (builds_body h).result [] final (hfinal ▸ List.prefix_refl _)
  have hread : Reads ClassFile.read d.bytes (fileOf final (d.body.run []).1) := by
    rw [bytes, ← hfinal]
    exact Body.reads_file final.reads final.length_lt hfits
  have hparse := hread []
  rw [List.append_nil] at hparse
  rw [parse, hparse]
  simp only [hrecord, hfinal, record]

/-- A class with an annotation whose members use each kind of value. -/
def panel : ClassDescription where
  thisClass := "app/Panel".toList
  superClass := some "app/Base".toList
  interfaces := ["app/Shown".toList, "app/Base".toList]
  annotations := [⟨.object "app/Route".toList, [
    ("value".toList, .array [.string "value".toList, .array [.boolean true, .int (-1)]]),
    ("kind".toList, .enumConstant (.object "app/Kind".toList) "GET".toList),
    ("types".toList, .array [.classLiteral .void, .classLiteral (.value (.array (.base .int)))])]⟩]

/-- The member and the text of the same name share an entry of the pool. -/
theorem parse_bytes_panel :
    panel.isWellFormed = true ∧ panel.pool.length = 17 ∧
      parse panel.bytes = .ok ⟨⟨"app.Panel".toList,
        ["app.Base".toList, "app.Shown".toList, "app.Base".toList]⟩,
        [⟨"app.Route".toList, [
          ("value".toList, .array [.text "value".toList, .array [.boolean true,
            .unsupported "Int \x7b const_value_index: 11 \x7d".toList]]),
          ("kind".toList, .enumConstant "app.Kind".toList "GET".toList),
          ("types".toList, .array [.typeRef "void".toList, .typeRef "int[]".toList])]⟩]⟩ := by
  have h : panel.isWellFormed = true := by decide +kernel
  exact ⟨h, by decide +kernel, (parse_bytes panel h).trans rfl⟩

end ClassDescription

end ServletRoutes.ClassFile
