import Mathlib.Data.List.Forall2
import ServletRoutes.ClassFile.Assembly
import ServletRoutes.Proofs.Text.Decoding

/-!
# `ServletRoutes.Proofs.ClassFile.Reading`: what is laid out is read back

A reader `Reads` some bytes as a value when it takes exactly these bytes,
whatever follows them. The property goes from the parts of a reader to the
whole (`Reads.bind`), so a reader in many steps is followed through the
bytes without offsets. Constants, elements, annotations and class files are
read back as what they were laid out from (`ConstantPool.reads_slots`,
`Element.reads_bytes`, `Entry.reads_bytes`, `Body.reads_file`), as long as
indices and counters take the bytes they have.
-/

set_option autoImplicit false

namespace ServletRoutes.ClassFile

variable {α β : Type}

/-! ### Readers that take exactly their bytes -/

/-- A reader takes exactly these bytes, whatever follows them, and gives a value. -/
def Reads (reader : Reader α) (bytes : Bytes) (a : α) : Prop :=
  ∀ rest, reader (bytes ++ rest) = .ok (a, rest)

namespace Reads

variable {reader : Reader α} {next : α → Reader β} {bytes bytes' : Bytes} {a : α} {b : β}

/-- A value is given for no bytes. -/
theorem pure (a : α) : Reads (Pure.pure a) [] a := fun _ => rfl

/-- The rest of a reader goes on where its first step stopped. -/
theorem bind_apply (h : Reads reader bytes a) (next : α → Reader β) (rest : Bytes) :
    (reader >>= next) (bytes ++ rest) = next a rest := by
  show (reader (bytes ++ rest) >>= fun p => next p.1 p.2) = _
  rw [h rest]
  rfl

/-- Readers one after the other read their bytes one after the other. -/
theorem bind (h : Reads reader bytes a) (hnext : Reads (next a) bytes' b) :
    Reads (reader >>= next) (bytes ++ bytes') b := by
  intro rest
  rw [List.append_assoc, h.bind_apply, hnext]

/-- A last step that reads nothing changes the value only. -/
theorem map (h : Reads reader bytes a) (f : α → β) :
    Reads (reader >>= fun a => Pure.pure (f a)) bytes (f a) := by
  rw [← List.append_nil bytes]
  exact h.bind (.pure _)

/-- The values read from the same bytes are the same. -/
theorem unique {a' : α} (h : Reads reader bytes a) (h' : Reads reader bytes a') : a = a' := by
  have heq := (h []).symm.trans (h' [])
  exact (Prod.mk.inj (Except.ok.inj heq)).1

/-- So many values, one after the other. -/
theorem times {γ : Type} {items : List γ} {bytesOf : γ → Bytes} {valueOf : γ → α}
    (h : ∀ item ∈ items, Reads reader (bytesOf item) (valueOf item)) :
    Reads (Reader.times items.length reader) (items.flatMap bytesOf) (items.map valueOf) := by
  induction items with
  | nil => exact .pure []
  | cons item items ih =>
    rw [List.forall_mem_cons] at h
    exact h.1.bind ((ih h.2).map _)

end Reads

/-! ### Numbers -/

/-- A byte is read modulo its range. -/
theorem reads_u8_mod (n : Nat) : Reads Reader.u8 [UInt8.ofNat n] (n % 0x100) := by
  intro rest
  show Except.ok ((UInt8.ofNat n).toNat, rest) = _
  rw [UInt8.toNat_ofNat']

/-- A number that does not fit is read as what is left of it. -/
theorem reads_u16_mod (n : Nat) : Reads Reader.u16 (u16Bytes n) (n % 0x10000) := by
  have hread : Reads Reader.u16 ([UInt8.ofNat (n / 0x100)] ++ [UInt8.ofNat n])
      (n / 0x100 % 0x100 * 0x100 + n % 0x100) :=
    (reads_u8_mod _).bind ((reads_u8_mod n).map _)
  have hsum : n / 0x100 % 0x100 * 0x100 + n % 0x100 = n % 0x10000 := by omega
  rwa [hsum] at hread

/-- Four bytes are read modulo their range. -/
theorem reads_u32_mod (n : Nat) : Reads Reader.u32 (u32Bytes n) (n % 0x100000000) := by
  have hread : Reads Reader.u32 (u16Bytes (n / 0x10000) ++ u16Bytes n)
      (n / 0x10000 % 0x10000 * 0x10000 + n % 0x10000) :=
    (reads_u16_mod _).bind ((reads_u16_mod n).map _)
  have hsum : n / 0x10000 % 0x10000 * 0x10000 + n % 0x10000 = n % 0x100000000 := by omega
  rwa [hsum] at hread

/-- A number that fits a byte is read back. -/
theorem reads_u8 {n : Nat} (h : n < 0x100) : Reads Reader.u8 [UInt8.ofNat n] n := by
  have hread := reads_u8_mod n
  rwa [Nat.mod_eq_of_lt h] at hread

/-- A number that fits two bytes is read back. -/
theorem reads_u16 {n : Nat} (h : n < 0x10000) : Reads Reader.u16 (u16Bytes n) n := by
  have hread := reads_u16_mod n
  rwa [Nat.mod_eq_of_lt h] at hread

/-- A number that fits four bytes is read back. -/
theorem reads_u32 {n : Nat} (h : n < 0x100000000) : Reads Reader.u32 (u32Bytes n) n := by
  have hread := reads_u32_mod n
  rwa [Nat.mod_eq_of_lt h] at hread

/-- As many bytes as asked for are read. -/
theorem reads_take (bytes : Bytes) : Reads (Reader.take bytes.length) bytes bytes := by
  intro rest
  simp [Reader.take]

/-- As many bytes as asked for are left out. -/
theorem reads_skip (bytes : Bytes) : Reads (Reader.skip bytes.length) bytes () :=
  (reads_take bytes).map _

/-! ### Texts -/

namespace ModifiedUtf8

/-- The bytes of a character of the basic plane are plain already. -/
theorem plainFrom_encodeChar {c : Char} (h : c.toNat < 0x10000) (bytes : Bytes) :
    plainFrom none (Text.Utf8.encodeChar c ++ bytes) =
      (plainFrom none bytes).map fun written => Text.Utf8.encodeChar c ++ written := by
  have hvalid : c.toNat < 0xD800 ∨ (0xDFFF < c.toNat ∧ c.toNat < 0x110000) := c.valid
  have hbyte {n : Nat} (hn : n < 0x100) : (UInt8.ofNat n).toNat = n := by
    rw [UInt8.toNat_ofNat', Nat.mod_eq_of_lt hn]
  simp only [Text.Utf8.encodeChar]
  generalize c.toNat = n at h hvalid
  by_cases hone : n < 0x80
  · have ha := hbyte (show n < 0x100 by omega)
    simp only [hone, if_true, List.cons_append, List.nil_append]
    conv => lhs; unfold plainFrom
    simp only [ha, hone, if_true, released, List.nil_append]
  by_cases htwo : n < 0x800
  · have ha := hbyte (show 0xC0 + n / 0x40 < 0x100 by omega)
    simp only [hone, htwo, if_true, if_false, List.cons_append, List.nil_append]
    conv => lhs; unfold plainFrom
    -- the zero character is the only one with a first byte of 0xC0
    have hzero : ¬ 0xC0 + n / 0x40 = 0xC0 := by omega
    simp only [ha, hzero, decide_false, Bool.false_and, released, List.nil_append]
    rw [if_neg (by omega), if_neg (by omega), if_pos (by omega)]
    rfl
  · have ha := hbyte (show 0xE0 + n / 0x1000 < 0x100 by omega)
    have hb := hbyte (show 0x80 + n / 0x40 % 0x40 < 0x100 by omega)
    have hc := hbyte (show 0x80 + n % 0x40 < 0x100 by omega)
    have hunit : unit (UInt8.ofNat (0xE0 + n / 0x1000)) (UInt8.ofNat (0x80 + n / 0x40 % 0x40))
        (UInt8.ofNat (0x80 + n % 0x40)) = n := by
      rw [unit, ha, hb, hc]
      omega
    have hhigh : isHigh n = false := by
      simp only [isHigh, Bool.and_eq_false_iff, decide_eq_false_iff_not]
      omega
    have hlow : isLow n = false := by
      simp only [isLow, Bool.and_eq_false_iff, decide_eq_false_iff_not]
      omega
    simp only [hone, htwo, h, if_true, if_false, List.cons_append, List.nil_append]
    conv => lhs; unfold plainFrom
    simp only [ha, hunit, hhigh, hlow, released, List.nil_append]
    rw [if_neg (by omega), if_neg (by omega), if_neg (by omega), if_pos (by omega)]
    rfl

/-- Text without characters beyond the first plane is read as it is encoded. -/
theorem plain_encode {text : Text} (h : ∀ c ∈ text, c.toNat < 0x10000) :
    plain (Text.Utf8.encode text) = .ok (Text.Utf8.encode text) := by
  induction text with
  | nil => rfl
  | cons c text ih =>
    rw [List.forall_mem_cons] at h
    have hrest : plainFrom none (Text.Utf8.encode text) = .ok (Text.Utf8.encode text) := ih h.2
    rw [plain, Text.Utf8.encode, List.flatMap_cons, plainFrom_encodeChar h.1, ← Text.Utf8.encode,
      hrest]
    rfl

/-- A text of the basic plane is decoded from its plain bytes. -/
theorem decode_encode {text : Text} (h : ∀ c ∈ text, c.toNat < 0x10000) :
    decode (Text.Utf8.encode text) = .ok text := by
  rw [decode, plain_encode h]
  simp only [Text.Utf8.decode_encode]

end ModifiedUtf8

/-! ### Constants -/

/-- A text is a constant if its encoding has room and no character lies beyond the first plane. -/
theorem isConstant_iff {text : Text} : isConstant text = true ↔
    (Text.Utf8.encode text).length < 0x10000 ∧ ∀ c ∈ text, c.toNat < 0x10000 := by
  simp [isConstant]

/-- Some bytes are the entry of a constant that takes one slot. -/
def IsEntryOf (bytes : Bytes) (c : Constant) : Prop := Reads ConstantPool.entry bytes [some c]

namespace ConstantPool

/-- A text behind its length is read back. -/
theorem reads_text {text : Text} (h : isConstant text = true) :
    Reads ConstantPool.text
      (u16Bytes (Text.Utf8.encode text).length ++ Text.Utf8.encode text) (.utf8 text) := by
  obtain ⟨hlength, hplane⟩ := isConstant_iff.mp h
  intro rest
  rw [ConstantPool.text, List.append_assoc, (reads_u16 hlength).bind_apply,
    (reads_take _).bind_apply, ModifiedUtf8.decode_encode hplane]
  rfl

/-- The entry of a text is read as the text. -/
theorem isEntryOf_textEntry {text : Text} (h : isConstant text = true) :
    IsEntryOf (textEntry text) (.utf8 text) :=
  (reads_u8 (n := 1) (by decide)).bind ((reads_text h).map _)

/-- The entry of an integer is read as its bits. -/
theorem isEntryOf_integerEntry (n : Int32) :
    IsEntryOf (integerEntry n) (.integer n.toUInt32.toNat) := by
  have hconstant : Reads (constantOf 3) (u32Bytes n.toUInt32.toNat) (.integer n.toUInt32.toNat) :=
    (reads_u32 (UInt32.toNat_lt _)).map Constant.integer
  exact (reads_u8 (n := 3) (by decide)).bind (hconstant.map _)

/-- The entry of a class is read as the index of its name. -/
theorem isEntryOf_classEntry (nameIndex : Nat) :
    IsEntryOf (classEntry nameIndex) (.classInfo (nameIndex % 0x10000)) := by
  have hconstant : Reads (constantOf 7) (u16Bytes nameIndex) (.classInfo (nameIndex % 0x10000)) :=
    (reads_u16_mod nameIndex).map Constant.classInfo
  exact (reads_u8 (n := 7) (by decide)).bind (hconstant.map _)

/-- Entries of one slot each are read one after the other. -/
theorem reads_slots {entries : List Bytes} {constants : List Constant}
    (h : List.Forall₂ IsEntryOf entries constants) :
    Reads (slots entries.length) entries.flatten (constants.map some) := by
  induction h with
  | nil => exact .pure []
  | @cons bytes c entries constants h hrest ih =>
    -- the last slot is read without a look at what is left
    cases hrest with
    | nil =>
      rw [List.flatten_cons, List.flatten_nil, List.append_nil]
      exact h
    | cons h' hrest => exact h.bind (ih.map _)

end ConstantPool

/-! ### Elements -/

namespace Element

mutual

/-- The indices and the counters of an element take two bytes. -/
def Fits : Element → Prop
  | number _ index | boolean index | string index | classLiteral index => index < 0x10000
  | enumConstant typeName constant => typeName < 0x10000 ∧ constant < 0x10000
  | nested typeName members =>
    typeName < 0x10000 ∧ members.length < 0x10000 ∧ MembersFit members
  | array items => items.length < 0x10000 ∧ ItemsFit items

/-- Several elements fit. -/
def ItemsFit : List Element → Prop
  | [] => True
  | item :: items => item.Fits ∧ ItemsFit items

/-- The members of an annotation fit. -/
def MembersFit : List (Nat × Element) → Prop
  | [] => True
  | (name, item) :: members => name < 0x10000 ∧ item.Fits ∧ MembersFit members

end

/-- The letter of a descriptor is read as its code. -/
theorem reads_letter (letter : Char) (h : letter.toNat < 0x100) :
    Reads Reader.u8 [letterByte letter] letter.toNat :=
  reads_u8 h

mutual

/-- An element is read back with at least as many levels of nesting as it has bytes. -/
theorem reads_nested (element : Element) (fuel : Nat) (h : element.Fits)
    (hfuel : element.bytes.length ≤ fuel) :
    Reads (readNested fuel) element.bytes element := by
  cases fuel with
  | zero => cases element <;> simp [bytes] at hfuel
  | succ fuel =>
    cases element with
    | number kind index =>
      have hread := (reads_u16 h).map (number kind)
      cases kind <;> exact (reads_letter _ (by decide)).bind hread
    | boolean index => exact (reads_letter 'Z' (by decide)).bind ((reads_u16 h).map boolean)
    | string index => exact (reads_letter 's' (by decide)).bind ((reads_u16 h).map string)
    | classLiteral index =>
      exact (reads_letter 'c' (by decide)).bind ((reads_u16 h).map classLiteral)
    | enumConstant typeName constant =>
      exact (reads_letter 'e' (by decide)).bind
        ((reads_u16 h.1).bind ((reads_u16 h.2).map (enumConstant typeName)))
    | nested typeName members =>
      -- what is inside has fewer bytes, so one level less is enough for it
      simp only [bytes, List.length_cons, List.length_append] at hfuel
      exact (reads_letter '@' (by decide)).bind ((reads_u16 h.1).bind ((reads_u16 h.2.1).bind
        ((reads_nested_members members fuel h.2.2 (by omega)).map (nested typeName))))
    | array items =>
      simp only [bytes, List.length_cons, List.length_append] at hfuel
      exact (reads_letter '[' (by decide)).bind ((reads_u16 h.1).bind
        ((reads_nested_items items fuel h.2 (by omega)).map array))

/-- The items of an array are read back, with fuel for their bytes. -/
theorem reads_nested_items (items : List Element) (fuel : Nat) (h : ItemsFit items)
    (hfuel : (itemBytes items).length ≤ fuel) :
    Reads (Reader.times items.length (readNested fuel)) (itemBytes items) items := by
  cases items with
  | nil => exact .pure []
  | cons item items =>
    simp only [itemBytes, List.length_append] at hfuel
    exact (reads_nested item fuel h.1 (by omega)).bind
      ((reads_nested_items items fuel h.2 (by omega)).map _)

/-- The members of a nested annotation are read back, with fuel for their bytes. -/
theorem reads_nested_members (members : List (Nat × Element)) (fuel : Nat) (h : MembersFit members)
    (hfuel : (memberBytes members).length ≤ fuel) :
    Reads (Reader.times members.length do
      let name ← Reader.u16
      return (name, ← readNested fuel)) (memberBytes members) members := by
  cases members with
  | nil => exact .pure []
  | cons member members =>
    obtain ⟨name, item⟩ := member
    simp only [memberBytes, List.length_append] at hfuel
    exact ((reads_u16 h.1).bind ((reads_nested item fuel h.2.1 (by omega)).map _)).bind
      ((reads_nested_members members fuel h.2.2 (by omega)).map _)

end

/-- The number of bytes left is enough. -/
theorem reads_bytes {element : Element} (h : element.Fits) :
    Reads Element.read element.bytes element := by
  intro rest
  exact reads_nested element ((element.bytes ++ rest).length + 1) h
    (by rw [List.length_append]; omega) rest

/-- The members of an annotation are read back. -/
theorem reads_members {members : List (Nat × Element)} (h : MembersFit members) :
    Reads (Reader.times members.length do
      let name ← Reader.u16
      return (name, ← Element.read)) (memberBytes members) members := by
  induction members with
  | nil => exact .pure []
  | cons member members ih =>
    obtain ⟨name, item⟩ := member
    exact ((reads_u16 h.1).bind ((reads_bytes h.2.1).map _)).bind ((ih h.2.2).map _)

end Element

/-- The indices and the counters of an annotation take two bytes. -/
structure Entry.Fits (entry : Entry) : Prop where
  typeName : entry.typeName < 0x10000
  length : entry.members.length < 0x10000
  members : Element.MembersFit entry.members

/-- An annotation is read back. -/
theorem Entry.reads_bytes {entry : Entry} (h : entry.Fits) :
    Reads Entry.read entry.bytes entry := by
  rw [Entry.bytes, List.append_assoc]
  exact (reads_u16 h.typeName).bind ((reads_u16 h.length).bind
    ((Element.reads_members h.members).map _))

/-! ### Files -/

/-- Items behind their number are read one after the other. -/
theorem reads_counted {γ : Type} {reader : Reader α} {items : List γ} {bytesOf : γ → Bytes}
    {valueOf : γ → α} (hlength : items.length < 0x10000)
    (h : ∀ item ∈ items, Reads reader (bytesOf item) (valueOf item)) :
    Reads (Attribute.counted Reader.u16 reader)
      (u16Bytes items.length ++ items.flatMap bytesOf) (items.map valueOf) :=
  (reads_u16 hlength).bind (.times h)

/-- The indices and the counters of what follows the pool take two bytes, and all attributes hold
visible annotations. -/
structure Body.Fits (pool : ConstantPool) (body : Body) : Prop where
  thisClass : body.thisClass < 0x10000
  superClass : body.superClass < 0x10000
  interfaces : body.interfaces.length < 0x10000 ∧ ∀ index ∈ body.interfaces, index < 0x10000
  attributes : body.attributes.length < 0x10000
  attributeName : ∀ item ∈ body.attributes, item.1 < 0x10000 ∧
    pool.utf8 item.1 = .ok "RuntimeVisibleAnnotations".toList
  entries : ∀ item ∈ body.attributes, item.2.length < 0x10000 ∧
    ∀ entry ∈ item.2, entry.Fits

namespace Body

variable {pool : ConstantPool} {body : Body}

/-- Annotations behind their number are read back. -/
theorem reads_content {entries : List Entry} (hlength : entries.length < 0x10000)
    (h : ∀ entry ∈ entries, entry.Fits) : Reads Attribute.entries (content entries) entries := by
  have hread : Reads Attribute.entries (content entries) (entries.map id) :=
    reads_counted hlength fun entry hentry => Entry.reads_bytes (h entry hentry)
  rwa [List.map_id] at hread

/-- An attribute with visible annotations is read whatever its length says. -/
theorem reads_attribute (h : body.Fits pool) (fuel : Nat) {item : Nat × List Entry}
    (hitem : item ∈ body.attributes) :
    Reads (Attribute.readNested pool (fuel + 1)) (attributeBytes item) item.2 := by
  obtain ⟨nameIndex, entries⟩ := item
  obtain ⟨hindex, hname⟩ := h.attributeName _ hitem
  obtain ⟨hlength, hentries⟩ := h.entries _ hitem
  intro rest
  rw [attributeBytes, List.append_assoc, List.append_assoc, Attribute.readNested,
    (reads_u16 hindex).bind_apply, hname]
  show (Reader.u32 >>= _) _ = _
  rw [(reads_u32_mod _).bind_apply, if_neg (by decide), Attribute.content, if_pos rfl]
  exact reads_content hlength hentries rest

/-- The attributes of a class are read as the annotations in them. -/
theorem reads_attributes (h : body.Fits pool) :
    Reads (Attribute.readAll pool)
      (u16Bytes body.attributes.length ++ body.attributes.flatMap attributeBytes)
      (body.attributes.map (·.2)).flatten := by
  intro rest
  exact ((reads_counted h.attributes fun _ hitem =>
    reads_attribute h _ hitem).map List.flatten) rest

/-- A class file without fields and methods is read back. -/
theorem reads_file {entries : List Bytes} {constants : List Constant}
    (hentries : List.Forall₂ IsEntryOf entries constants) (hcount : entries.length < 0xFFFF)
    (h : body.Fits (constants.map some)) :
    Reads ClassFile.read
      (u32Bytes magic ++ (u16Bytes 0 ++ (u16Bytes 52 ++
        (u16Bytes (entries.length + 1) ++ entries.flatten ++ body.bytes))))
      ⟨constants.map some, body.thisClass, body.superClass, body.interfaces,
        (body.attributes.map (·.2)).flatten⟩ := by
  have hpool : Reads ConstantPool.read (u16Bytes (entries.length + 1) ++ entries.flatten)
      (constants.map some) :=
    (reads_u16 (by omega)).bind (ConstantPool.reads_slots hentries)
  have hinterfaces : Reads (Attribute.counted Reader.u16 Reader.u16)
      (u16Bytes body.interfaces.length ++ body.interfaces.flatMap u16Bytes)
      (body.interfaces.map id) :=
    reads_counted h.interfaces.1 fun index hindex => reads_u16 (h.interfaces.2 index hindex)
  have hnone {α : Type} (reader : Reader α) :
      Reads (Attribute.counted Reader.u16 reader) (u16Bytes 0) [] :=
    (reads_u16 (by decide)).bind (.pure [])
  rw [List.map_id] at hinterfaces
  -- the magic number, the version, which is a supported one, and the pool
  refine (reads_u32 (by decide)).bind ?_
  refine (reads_u16 (by decide)).bind ((reads_u16 (by decide)).bind (hpool.bind ?_))
  -- the access flags, the class and its supertypes
  refine (reads_skip (u16Bytes 0x0021)).bind ((reads_u16 h.thisClass).bind ?_)
  refine (reads_u16 h.superClass).bind (hinterfaces.bind ?_)
  -- no fields, no methods, and the attributes
  exact (hnone _).bind ((hnone _).bind ((reads_attributes h).map _))

end Body

end ServletRoutes.ClassFile
