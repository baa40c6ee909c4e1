import ServletRoutes.ClassFile.ConstantPool
import ServletRoutes.ClassFile.Descriptor
import ServletRoutes.Annotations.Value

/-!
# `ServletRoutes.ClassFile.Element`: annotations as class files write them

An annotation gives its type and its members by indices into the constant pool. A member's value
is an element: a constant, an enum constant, a class, another annotation or an array of elements.
`Element.value` looks the constants up; elements that no value stands for are described instead.
-/

set_option autoImplicit false

namespace ServletRoutes.ClassFile

/-- The kinds of constants that have no value of their own. -/
inductive NumberKind
  | byte
  | char
  | double
  | float
  | int
  | long
  | short
deriving DecidableEq

/-- The name of a kind in descriptions. -/
def NumberKind.label : NumberKind → String
  | byte => "Byte"
  | char => "Char"
  | double => "Double"
  | float => "Float"
  | int => "Int"
  | long => "Long"
  | short => "Short"

/-- The value of an annotation member, by indices. -/
inductive Element
  | number (kind : NumberKind) (index : Nat)
  | boolean (index : Nat)
  | string (index : Nat)
  | enumConstant (typeName constant : Nat)
  | classLiteral (index : Nat)
  | nested (typeName : Nat) (members : List (Nat × Element))
  | array (items : List Element)

/-- An annotation, by indices. -/
structure Entry where
  typeName : Nat
  members : List (Nat × Element)

namespace Element

/-! ### Reading -/

/-- An element. Each level of nesting takes at least a byte, so `fuel` levels are enough for the
bytes left where it is at least their number. -/
def readNested : Nat → Reader Element
  | 0 => Reader.fail .endOfInput
  | fuel + 1 => do
    let tag ← Reader.u8
    match Char.ofNat tag with
    | 'B' => return .number .byte (← Reader.u16)
    | 'C' => return .number .char (← Reader.u16)
    | 'D' => return .number .double (← Reader.u16)
    | 'F' => return .number .float (← Reader.u16)
    | 'I' => return .number .int (← Reader.u16)
    | 'J' => return .number .long (← Reader.u16)
    | 'S' => return .number .short (← Reader.u16)
    | 'Z' => return .boolean (← Reader.u16)
    | 's' => return .string (← Reader.u16)
    | 'c' => return .classLiteral (← Reader.u16)
    | 'e' => do
      let typeName ← Reader.u16
      return .enumConstant typeName (← Reader.u16)
    | '@' => do
      let typeName ← Reader.u16
      let count ← Reader.u16
      let members ← Reader.times count do
        let name ← Reader.u16
        return (name, ← readNested fuel)
      return .nested typeName members
    | '[' => do
      let count ← Reader.u16
      return .array (← Reader.times count (readNested fuel))
    | _ => Reader.fail (.elementTag tag)

/-- An element. -/
def read : Reader Element := do
  let n ← Reader.remaining
  readNested (n + 1)

/-! ### Describing -/

/-- A list of descriptions in square brackets. -/
def listed (items : List Text) : Text := '[' :: Text.join ", ".toList items ++ [']']

mutual

/-- The description of an element. -/
def description : Element → Text
  | number kind index => fielded kind.label [("const_value_index", Text.decimal index)]
  | boolean index => fielded "Boolean" [("const_value_index", Text.decimal index)]
  | string index => fielded "String" [("const_value_index", Text.decimal index)]
  | enumConstant typeName constant =>
    fielded "Enum" [("type_name_index", Text.decimal typeName),
      ("const_name_index", Text.decimal constant)]
  | classLiteral index => fielded "Class" [("class_info_index", Text.decimal index)]
  | nested typeName members =>
    fielded "Annotation" [("annotation", fielded "Annotation"
      [("type_index", Text.decimal typeName), ("elements", listed (memberDescriptions members))])]
  | array items => fielded "Array" [("values", listed (descriptions items))]

/-- The descriptions of several elements. -/
def descriptions : List Element → List Text
  | [] => []
  | item :: items => item.description :: descriptions items

/-- The descriptions of the members of an annotation. -/
def memberDescriptions : List (Nat × Element) → List Text
  | [] => []
  | (name, item) :: members =>
    fielded "AnnotationValuePair" [("name_index", Text.decimal name), ("value", item.description)] ::
      memberDescriptions members

end

/-! ### Looking up -/

open Annotations (Value)

mutual

/-- The value of an element. -/
def value (pool : ConstantPool) : Element → Except Fault Value
  | string index => (pool.utf8 index).map .text
  | classLiteral index => ((pool.utf8 index).bind nameOfDescriptor).map .typeRef
  | boolean index => (pool.integer index).map fun bits => .boolean (bits ≠ 0)
  | enumConstant typeName constant =>
    match (pool.utf8 typeName).bind nameOfDescriptor with
    | .error fault => .error fault
    | .ok typeName => (pool.utf8 constant).map (.enumConstant typeName)
  | array items => (values pool items).map .array
  | number kind index => .ok (.unsupported (number kind index).description)
  | nested typeName members => .ok (.unsupported (nested typeName members).description)

/-- The values of several elements, in order. -/
def values (pool : ConstantPool) : List Element → Except Fault (List Value)
  | [] => .ok []
  | item :: items =>
    match item.value pool with
    | .error fault => .error fault
    | .ok first => (values pool items).map (first :: ·)

end

end Element

namespace Entry

/-- An annotation. -/
def read : Reader Entry := do
  let typeName ← Reader.u16
  let count ← Reader.u16
  let members ← Reader.times count do
    let name ← Reader.u16
    return (name, ← Element.read)
  return ⟨typeName, members⟩

/-- The members of an annotation with their names and values, in order. -/
def memberValues (pool : ConstantPool) :
    List (Nat × Element) → Except Fault (List (Text × Annotations.Value))
  | [] => .ok []
  | (name, item) :: members =>
    match pool.utf8 name with
    | .error fault => .error fault
    | .ok name =>
      match item.value pool with
      | .error fault => .error fault
      | .ok value => (memberValues pool members).map ((name, value) :: ·)

/-- The annotation with its constants looked up. -/
def declared (pool : ConstantPool) (entry : Entry) : Except Fault Annotations.Declared :=
  match (pool.utf8 entry.typeName).bind nameOfDescriptor with
  | .error fault => .error fault
  | .ok typeName => (memberValues pool entry.members).map (.mk typeName)

end Entry

end ServletRoutes.ClassFile
