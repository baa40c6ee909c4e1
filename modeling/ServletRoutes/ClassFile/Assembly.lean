import ServletRoutes.ClassFile.Basic

/-!
# `ServletRoutes.ClassFile.Assembly`: class files from descriptions

A description tells the hierarchy of a class and its visible annotations by names and types. It is
laid out as a class file without fields and methods. Constants go into the pool in the order in
which they are first needed, equal ones share an entry, and all else refers to them by index. The
annotations stand in one attribute, which is left out where there are none.
-/

set_option autoImplicit false

namespace ServletRoutes.ClassFile

open Annotations (Value)

/-! ### Numbers and texts -/

/-- A number of two bytes, the highest first; what is above them is dropped. -/
def u16Bytes (n : Nat) : Bytes := [UInt8.ofNat (n / 0x100), UInt8.ofNat n]

/-- A number of four bytes, the highest first; what is above them is dropped. -/
def u32Bytes (n : Nat) : Bytes := u16Bytes (n / 0x10000) ++ u16Bytes n

/-- A letter as a byte. -/
def letterByte (letter : Char) : UInt8 := UInt8.ofNat letter.toNat

/-- A text constant can hold the text: no character is beyond the basic plane, and the bytes can be
counted. -/
def isConstant (text : Text) : Bool :=
  (Text.Utf8.encode text).length < 0x10000 && text.all fun c => c.toNat < 0x10000

/-! ### Constants -/

/-- The entry of a text. -/
def textEntry (text : Text) : Bytes :=
  1 :: (u16Bytes (Text.Utf8.encode text).length ++ Text.Utf8.encode text)

/-- The entry of an integer. -/
def integerEntry (n : Int32) : Bytes := 3 :: u32Bytes n.toUInt32.toNat

/-- The entry of a class, by the index of its name. -/
def classEntry (nameIndex : Nat) : Bytes := 7 :: u16Bytes nameIndex

/-- Builds something while entries are put into a constant pool. -/
abbrev Assembler (α : Type) := StateM (List Bytes) α

namespace Assembler

/-- The index of an entry, which is put at the end unless the pool has it. -/
def add (entry : Bytes) : Assembler Nat := fun pool =>
  if entry ∈ pool then (pool.idxOf entry + 1, pool) else (pool.length + 1, pool ++ [entry])

/-- The index of a text. -/
def addText (text : Text) : Assembler Nat := add (textEntry text)

/-- The index of an integer. -/
def addInteger (n : Int32) : Assembler Nat := add (integerEntry n)

/-- The index of a class; its name comes before it. -/
def addClass (internalName : Text) : Assembler Nat := do
  let nameIndex ← addText internalName
  add (classEntry nameIndex)

/-- The index of a class, or zero for none. -/
def addClass? : Option Text → Assembler Nat
  | some internalName => addClass internalName
  | none => return 0

end Assembler

/-! ### Elements -/

/-- The tag of an element that holds a number. -/
def NumberKind.letter : NumberKind → Char
  | byte => 'B'
  | char => 'C'
  | double => 'D'
  | float => 'F'
  | int => 'I'
  | long => 'J'
  | short => 'S'

namespace Element

mutual

/-- The bytes of an element. -/
def bytes : Element → Bytes
  | number kind index => letterByte kind.letter :: u16Bytes index
  | boolean index => letterByte 'Z' :: u16Bytes index
  | string index => letterByte 's' :: u16Bytes index
  | classLiteral index => letterByte 'c' :: u16Bytes index
  | enumConstant typeName constant => letterByte 'e' :: (u16Bytes typeName ++ u16Bytes constant)
  | nested typeName members =>
    letterByte '@' :: (u16Bytes typeName ++ (u16Bytes members.length ++ memberBytes members))
  | array items => letterByte '[' :: (u16Bytes items.length ++ itemBytes items)

/-- The bytes of several elements. -/
def itemBytes : List Element → Bytes
  | [] => []
  | item :: items => item.bytes ++ itemBytes items

/-- The bytes of the members of an annotation. -/
def memberBytes : List (Nat × Element) → Bytes
  | [] => []
  | (name, item) :: members => u16Bytes name ++ item.bytes ++ memberBytes members

end

end Element

/-- The bytes of an annotation. -/
def Entry.bytes (entry : Entry) : Bytes :=
  u16Bytes entry.typeName ++ u16Bytes entry.members.length ++ Element.memberBytes entry.members

/-! ### Descriptions -/

/-- The value of an annotation member, as a source gives it. -/
inductive MemberValue
  | string (content : Text)
  | boolean (value : Bool)
  | int (value : Int32)
  | enumConstant (type : JavaType) (constant : Text)
  | classLiteral (type : ReturnType)
  | array (items : List MemberValue)

namespace MemberValue

mutual

/-- The element of a value. -/
def element : MemberValue → Assembler Element
  | string content => do
    return .string (← .addText content)
  | boolean value => do
    return .boolean (← .addInteger (if value then 1 else 0))
  | int value => do
    return .number .int (← .addInteger value)
  | enumConstant type constant => do
    let typeName ← Assembler.addText type.descriptor
    return .enumConstant typeName (← .addText constant)
  | classLiteral type => do
    return .classLiteral (← .addText type.descriptor)
  | array items => do
    return .array (← elements items)

/-- The elements of several values, in order. -/
def elements : List MemberValue → Assembler (List Element)
  | [] => return []
  | item :: items => do
    let first ← item.element
    return first :: (← elements items)

end

mutual

/-- The texts can be constants, the types are well-formed, and the items can be counted. -/
def isWellFormed : MemberValue → Bool
  | string content => isConstant content
  | boolean _ => true
  | int _ => true
  | enumConstant type constant =>
    type.isWellFormed && isConstant type.descriptor && isConstant constant
  | classLiteral type => type.isWellFormed && isConstant type.descriptor
  | array items => items.length < 0x10000 && areWellFormed items

/-- All of several values are well-formed. -/
def areWellFormed : List MemberValue → Bool
  | [] => true
  | item :: items => item.isWellFormed && areWellFormed items

end

mutual

/-- What a value is read as. An integer is described only, by its index in the pool. -/
def readAs (pool : List Bytes) : MemberValue → Value
  | string content => .text content
  | boolean value => .boolean value
  | int value =>
    .unsupported (Element.number .int (pool.idxOf (integerEntry value) + 1)).description
  | enumConstant type constant => .enumConstant type.sourceName constant
  | classLiteral type => .typeRef type.sourceName
  | array items => .array (allReadAs pool items)

/-- What several values are read as. -/
def allReadAs (pool : List Bytes) : List MemberValue → List Value
  | [] => []
  | item :: items => item.readAs pool :: allReadAs pool items

end

end MemberValue

/-- An annotation with its members, as a source gives it. -/
structure AnnotationDescription where
  type : JavaType
  members : List (Text × MemberValue)

namespace AnnotationDescription

/-- The entry of an annotation. -/
def entry (described : AnnotationDescription) : Assembler Entry := do
  let typeName ← Assembler.addText described.type.descriptor
  let members ← described.members.mapM fun (name, value) => do
    let nameIndex ← Assembler.addText name
    return (nameIndex, ← value.element)
  return ⟨typeName, members⟩

/-- The type and the members are well-formed and can be counted. -/
def isWellFormed (described : AnnotationDescription) : Bool :=
  described.type.isWellFormed && isConstant described.type.descriptor &&
    described.members.length < 0x10000 &&
    described.members.all fun (name, value) => isConstant name && value.isWellFormed

/-- What an annotation is read as. -/
def readAs (pool : List Bytes) (described : AnnotationDescription) : Annotations.Declared :=
  ⟨described.type.sourceName, described.members.map fun (name, value) => (name, value.readAs pool)⟩

end AnnotationDescription

/-- A class with its visible annotations. -/
structure ClassDescription where
  /-- The name with slashes, like those of the superclass and the interfaces. -/
  thisClass : Text
  superClass : Option Text
  interfaces : List Text
  annotations : List AnnotationDescription

/-! ### Files -/

/-- What stands in a class file after the pool, by index. -/
structure Body where
  thisClass : Nat
  /-- Zero where there is no superclass. -/
  superClass : Nat
  interfaces : List Nat
  /-- The attributes by the index of their name, with their annotations. -/
  attributes : List (Nat × List Entry)

namespace Body

/-- The content of an attribute. -/
def content (entries : List Entry) : Bytes := u16Bytes entries.length ++ entries.flatMap Entry.bytes

/-- The bytes of an attribute. -/
def attributeBytes : Nat × List Entry → Bytes
  | (nameIndex, entries) =>
    u16Bytes nameIndex ++ (u32Bytes (content entries).length ++ content entries)

/-- The bytes of a public class without fields and methods. -/
def bytes (body : Body) : Bytes :=
  u16Bytes 0x0021 ++ (u16Bytes body.thisClass ++ (u16Bytes body.superClass ++
    (u16Bytes body.interfaces.length ++ body.interfaces.flatMap u16Bytes ++
      (u16Bytes 0 ++ (u16Bytes 0 ++
        (u16Bytes body.attributes.length ++ body.attributes.flatMap attributeBytes))))))

end Body

namespace ClassDescription

/-- The attribute with the annotations; none where there are no annotations. -/
def attributes (d : ClassDescription) : Assembler (List (Nat × List Entry)) :=
  if d.annotations.isEmpty then return []
  else do
    let nameIndex ← Assembler.addText "RuntimeVisibleAnnotations".toList
    let entries ← d.annotations.mapM AnnotationDescription.entry
    return [(nameIndex, entries)]

/-- What follows the pool, with the constants put in on the way. -/
def body (d : ClassDescription) : Assembler Body := do
  let thisClass ← Assembler.addClass d.thisClass
  let superClass ← Assembler.addClass? d.superClass
  let interfaces ← d.interfaces.mapM Assembler.addClass
  return ⟨thisClass, superClass, interfaces, ← d.attributes⟩

/-- The entries of the constant pool. -/
def pool (d : ClassDescription) : List Bytes := (d.body.run []).2

/-- The class file, for version 52. -/
def bytes (d : ClassDescription) : Bytes :=
  u32Bytes magic ++ (u16Bytes 0 ++ (u16Bytes 52 ++
    (u16Bytes (d.pool.length + 1) ++ d.pool.flatten ++ (d.body.run []).1.bytes)))

/-- The description can be laid out: its texts can be constants, its types are well-formed, and all
lists and the pool can be counted. -/
def isWellFormed (d : ClassDescription) : Bool :=
  isConstant d.thisClass && d.superClass.all isConstant &&
    (d.interfaces.length < 0x10000 && d.interfaces.all isConstant) &&
    (d.annotations.length < 0x10000 && d.annotations.all AnnotationDescription.isWellFormed) &&
    d.pool.length < 0xFFFF

/-- What a class is read as with the entries of a pool. -/
def readAs (pool : List Bytes) (d : ClassDescription) : ClassRecord :=
  ⟨⟨binaryName d.thisClass, (d.superClass.toList ++ d.interfaces).map binaryName⟩,
    d.annotations.map (AnnotationDescription.readAs pool)⟩

/-- What the class file is read as. -/
def record (d : ClassDescription) : ClassRecord := d.readAs d.pool

end ClassDescription

end ServletRoutes.ClassFile
