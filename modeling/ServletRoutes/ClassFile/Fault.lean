import ServletRoutes.Text.Quoted
import ServletRoutes.Text.Utf8

/-!
# `ServletRoutes.ClassFile.Fault`: what can be wrong with a class file

Each fault is one rule of the format that the bytes break, with the offending number or text.
-/

set_option autoImplicit false

namespace ServletRoutes.ClassFile

/-- What is wrong with bytes that should be a modified UTF-8 text. -/
inductive TextFault
  /-- A character lacks its last bytes. -/
  | cutOff
  /-- A byte begins no character of one to three bytes. -/
  | leadByte
  /-- The decoded bytes are not UTF-8. -/
  | utf8 (fault : Text.Utf8.Fault)
deriving DecidableEq

/-- What is wrong with a class file. -/
inductive Fault
  /-- The bytes end too early. -/
  | endOfInput
  /-- The constant pool counts no slot, not even the unused first one. -/
  | poolCountZero
  /-- A class descriptor in a field is shorter than its delimiters. -/
  | descriptorCutOff
  /-- The first four bytes are not the magic number. -/
  | magic (found : Nat)
  /-- The version is not supported. -/
  | version (major minor : Nat)
  | constantTag (tag : Nat)
  | referenceKind (kind : Nat)
  /-- The name of an attribute is no text of the pool. -/
  | attributeName (index : Nat)
  /-- An attribute of fixed length has another one. -/
  | attributeLength (length : Nat)
  | elementTag (tag : Nat)
  /-- The pool has no entry at this index. -/
  | poolIndex (index : Nat)
  /-- The entry at this index is of another kind. -/
  | poolIndexKind (index : Nat)
  /-- A type begins with this character in a return descriptor. -/
  | baseType (code : Char)
  /-- A type begins with this character in a field descriptor. -/
  | fieldType (code : Char)
  /-- A class name in a field descriptor is empty or not closed. -/
  | fieldDescriptor (descriptor : Text)
  /-- A return descriptor ends before its type does. -/
  | methodDescriptor (descriptor : Text)
  | text (fault : TextFault)
deriving DecidableEq

/-- A name with an argument in parentheses. -/
def labelled (label : String) (argument : Text) : Text :=
  label.toList ++ '(' :: argument ++ [')']

/-- A name with fields in braces. -/
def fielded (label : String) (fields : List (String × Text)) : Text :=
  label.toList ++ " \x7b ".toList ++
    Text.join ", ".toList (fields.map fun (name, value) => name.toList ++ ": ".toList ++ value) ++
    " \x7d".toList

/-- The wording of a text fault. -/
def TextFault.message : TextFault → Text
  | cutOff => "Invalid MUTF-8 byte sequence".toList
  | leadByte => "MUTF-8 does not use 4-byte sequences".toList
  | utf8 fault =>
    "invalid utf-8 sequence of ".toList ++ Text.decimal fault.length ++
      " bytes from index ".toList ++ Text.decimal fault.index

/-- The description of a fault in messages. -/
def Fault.description : Fault → Text
  | endOfInput => labelled "IoError" (Text.quoted "failed to fill whole buffer".toList)
  | poolCountZero => labelled "IoError" (Text.quoted "Invalid constant pool count".toList)
  | descriptorCutOff => labelled "IoError" (Text.quoted "Invalid descriptor length".toList)
  | magic found => labelled "InvalidMagicNumber" (Text.decimal found)
  | version major minor =>
    fielded "InvalidVersion" [("major", Text.decimal major), ("minor", Text.decimal minor)]
  | constantTag tag => labelled "InvalidConstantTag" (Text.decimal tag)
  | referenceKind kind => labelled "InvalidReferenceKind" (Text.decimal kind)
  | attributeName index => labelled "InvalidAttributeNameIndex" (Text.decimal index)
  | attributeLength length => labelled "InvalidAttributeLength" (Text.decimal length)
  | elementTag tag => labelled "InvalidAnnotationElementTag" (Text.decimal tag)
  | poolIndex index => labelled "InvalidConstantPoolIndex" (Text.decimal index)
  | poolIndexKind index => labelled "InvalidConstantPoolIndexType" (Text.decimal index)
  | baseType code => labelled "InvalidBaseTypeCode" (Text.quotedSingle code)
  | fieldType code => labelled "InvalidFieldTypeCode" (Text.quotedSingle code)
  | fieldDescriptor descriptor =>
    labelled "InvalidFieldTypeDescriptor" (Text.quoted descriptor)
  | methodDescriptor descriptor => labelled "InvalidMethodDescriptor" (Text.quoted descriptor)
  | text fault => labelled "FromUtf8Error" (Text.quoted fault.message)

end ServletRoutes.ClassFile
