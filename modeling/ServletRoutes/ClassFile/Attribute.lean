import ServletRoutes.ClassFile.Element

/-!
# `ServletRoutes.ClassFile.Attribute`: the attributes of classes and members

Of all attributes only the annotations visible at run time are kept. The others are read over:
those with a structure by their structure, those of fixed length after a check of the length, and
the rest by their length.
-/

set_option autoImplicit false

namespace ServletRoutes.ClassFile.Attribute

/-- Attributes of fixed length. -/
def fixedLengths : List (String × Nat) := [
  ("ConstantValue", 2), ("EnclosingMethod", 4), ("Synthetic", 0), ("Deprecated", 0),
  ("Signature", 2), ("SourceFile", 2), ("ModuleMainClass", 2), ("NestHost", 2)]

/-- Attributes that are tables: a counter of one or two bytes and rows of fixed length. -/
def tables : List (String × Reader Nat × Nat) := [
  ("Exceptions", Reader.u16, 2), ("NestMembers", Reader.u16, 2),
  ("PermittedSubclasses", Reader.u16, 2), ("InnerClasses", Reader.u16, 8),
  ("LineNumberTable", Reader.u16, 4), ("MethodParameters", Reader.u8, 4)]

/-- So many things as a counter says. -/
def counted {α : Type} (counter : Reader Nat) (item : Reader α) : Reader (List α) := do
  let count ← counter
  Reader.times count item

/-- The annotations of an attribute. -/
def entries : Reader (List Entry) := counted Reader.u16 Entry.read

/-- Reads over a structure. -/
def readOver {α : Type} (reader : Reader α) : Reader (List Entry) := do
  let _ ← reader
  return []

/-- A method of a bootstrap table: its handle and its arguments. -/
def bootstrapMethod : Reader (List Unit) := do
  Reader.skip 2
  counted Reader.u16 (Reader.skip 2)

/-- Reads over a text of so many bytes. -/
def textOver (length : Nat) : Reader (List Entry) := do
  let bytes ← Reader.take length
  match ModifiedUtf8.decode bytes with
  | .ok _ => return []
  | .error fault => Reader.fail (.text fault)

/-- The content of an attribute that has no attributes of its own: the visible annotations, if it
holds them. -/
def content (name : Text) (length : Nat) : Reader (List Entry) :=
  if name = "RuntimeVisibleAnnotations".toList then entries
  else if name = "RuntimeInvisibleAnnotations".toList then readOver entries
  else if name = "RuntimeVisibleParameterAnnotations".toList ||
      name = "RuntimeInvisibleParameterAnnotations".toList then
    readOver (counted Reader.u8 entries)
  else if name = "AnnotationDefault".toList then readOver Element.read
  else if name = "BootstrapMethods".toList then readOver (counted Reader.u16 bootstrapMethod)
  else if name = "SourceDebugExtension".toList then textOver length
  else
    match fixedLengths.find? fun (n, _) => n.toList = name with
    | some (_, fixed) =>
      if length = fixed then readOver (Reader.skip length) else Reader.fail (.attributeLength length)
    | none =>
      match tables.find? fun (n, _) => n.toList = name with
      | some (_, counter, row) => readOver (counted counter (Reader.skip row))
      | none => readOver (Reader.skip length)

/-- An attribute: the visible annotations, if it holds them. The components of a record have
attributes of their own; `fuel` bounds this nesting as the number of bytes left does. -/
def readNested (pool : ConstantPool) : Nat → Reader (List Entry)
  | 0 => Reader.fail .endOfInput
  | fuel + 1 => do
    let nameIndex ← Reader.u16
    match pool.utf8 nameIndex with
    | .error _ => Reader.fail (.attributeName nameIndex)
    | .ok name => do
      let length ← Reader.u32
      -- attributes of components are read over, visible annotations among them
      if name = "Record".toList then
        readOver (counted Reader.u16 do
          Reader.skip 4
          counted Reader.u16 (readNested pool fuel))
      else content name length

/-- A counted list of attributes: the visible annotations of all of them, in order. -/
def readAll (pool : ConstantPool) : Reader (List Entry) := do
  let n ← Reader.remaining
  let all ← counted Reader.u16 (readNested pool (n + 1))
  return all.flatten

end ServletRoutes.ClassFile.Attribute
