import ServletRoutes.ClassFile.Fault

/-!
# `ServletRoutes.ClassFile.Descriptor`: types by their descriptors

A descriptor writes a base type as a letter, a class as its internal name between `L` and `;`,
and an array as `[` before its component. Annotations name types by descriptors that are read
like the return type of a method; field descriptors are only checked.
-/

set_option autoImplicit false

namespace ServletRoutes.ClassFile

/-- The types that are not classes. -/
inductive BaseType
  | byte
  | char
  | double
  | float
  | int
  | long
  | short
  | boolean
deriving DecidableEq

namespace BaseType

/-- The type with a letter. -/
def ofLetter? : Char → Option BaseType
  | 'B' => some byte
  | 'C' => some char
  | 'D' => some double
  | 'F' => some float
  | 'I' => some int
  | 'J' => some long
  | 'S' => some short
  | 'Z' => some boolean
  | _ => none

/-- The letter of a type. -/
def letter : BaseType → Char
  | byte => 'B'
  | char => 'C'
  | double => 'D'
  | float => 'F'
  | int => 'I'
  | long => 'J'
  | short => 'S'
  | boolean => 'Z'

/-- The keyword of a type. -/
def keyword : BaseType → String
  | byte => "byte"
  | char => "char"
  | double => "double"
  | float => "float"
  | int => "int"
  | long => "long"
  | short => "short"
  | boolean => "boolean"

end BaseType

/-- A type of the virtual machine. -/
inductive JavaType
  | base (type : BaseType)
  /-- A class, by its internal name with slashes. -/
  | object (internalName : Text)
  | array (component : JavaType)
deriving DecidableEq

/-- The name of a class as sources write it, from its internal name. -/
def binaryName (internalName : Text) : Text := Text.replace '/' '.' internalName

/-- The name of a type as sources write it. -/
def JavaType.sourceName : JavaType → Text
  | base type => type.keyword.toList
  | object internalName => binaryName internalName
  | array component => component.sourceName ++ "[]".toList

/-- The descriptor of a type. -/
def JavaType.descriptor : JavaType → Text
  | base type => [type.letter]
  | object internalName => 'L' :: internalName ++ [';']
  | array component => '[' :: component.descriptor

/-- Class names do not hold the sign that ends them in a descriptor. -/
def JavaType.isWellFormed : JavaType → Bool
  | base _ => true
  | object internalName => ';' ∉ internalName
  | array component => component.isWellFormed

/-- What a method gives back. -/
inductive ReturnType
  | void
  | value (type : JavaType)
deriving DecidableEq

namespace ReturnType

/-- The name as sources write it. -/
def sourceName : ReturnType → Text
  | void => "void".toList
  | value type => type.sourceName

/-- The descriptor of a return type. -/
def descriptor : ReturnType → Text
  | void => ['V']
  | value type => type.descriptor

/-- A well-formed type or none. -/
def isWellFormed : ReturnType → Bool
  | void => true
  | value type => type.isWellFormed

end ReturnType

/-- The type at the beginning of a descriptor; `whole` is the descriptor for the message. What
follows the type is not looked at. -/
def typeOfDescriptor (whole : Text) : Text → Except Fault JavaType
  | [] => .error (.methodDescriptor ("()".toList ++ whole))
  | '[' :: rest => (typeOfDescriptor whole rest).map .array
  | 'L' :: rest => .ok (.object (rest.takeWhile fun c => c ≠ ';'))
  | c :: _ =>
    match BaseType.ofLetter? c with
    | some type => .ok (.base type)
    | none => .error (.baseType c)

/-- The source name of the type that a descriptor gives, or `void`. -/
def nameOfDescriptor : Text → Except Fault Text
  | 'V' :: _ => .ok "void".toList
  | descriptor => (typeOfDescriptor descriptor descriptor).map JavaType.sourceName

/-- Checks the descriptor of a field. A class name takes as many characters as the descriptor has
bytes between its delimiters. -/
def checkFieldDescriptor : Text → Except Fault Unit
  | [] => .error (.fieldType '\x00')
  | '[' :: rest => checkFieldDescriptor rest
  | 'L' :: rest =>
    let descriptor := 'L' :: rest
    if Text.byteSize descriptor < 2 then .error .descriptorCutOff
    else if rest.take (Text.byteSize descriptor - 2) = [] || !Text.endsWith [';'] descriptor then
      .error (.fieldDescriptor descriptor)
    else .ok ()
  | c :: _ => if (BaseType.ofLetter? c).isSome then .ok () else .error (.fieldType c)

end ServletRoutes.ClassFile
