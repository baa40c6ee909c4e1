import ServletRoutes.ClassFile.Attribute

/-!
# `ServletRoutes.ClassFile.Basic`: what a class file says about its class

The whole file is read first, then the names and the visible annotations of the class are looked
up in the constant pool. Fields and methods are read over.
-/

set_option autoImplicit false

namespace ServletRoutes

/-- The parts of a class file that matter here. -/
structure ClassFile where
  pool : ClassFile.ConstantPool
  thisClass : Nat
  /-- Zero where there is no superclass. -/
  superClass : Nat
  interfaces : List Nat
  /-- The annotations visible at run time. -/
  annotations : List ClassFile.Entry

namespace ClassFile

/-- The first four bytes of a class file. -/
def magic : Nat := 0xCAFEBABE

/-- A version is supported from 45 to 69; from 56 on the minor number is all zeros or all ones. -/
def isSupported (major minor : Nat) : Bool :=
  45 ≤ major && major ≤ 69 && (major < 56 || minor = 0 || minor = 0xFFFF)

/-- Reads over a field, whose descriptor must be well-formed. -/
def field (pool : ConstantPool) : Reader Unit := do
  Reader.skip 4
  let descriptor ← Reader.u16
  Reader.lift ((pool.utf8 descriptor).bind checkFieldDescriptor)
  let _ ← Attribute.readAll pool
  return ()

/-- Reads over a method. -/
def method (pool : ConstantPool) : Reader Unit := do
  Reader.skip 6
  let _ ← Attribute.readAll pool
  return ()

/-- A class file. What follows its last attribute is not read. -/
def read : Reader ClassFile := do
  let found ← Reader.u32
  if found ≠ magic then Reader.fail (.magic found)
  let minor ← Reader.u16
  let major ← Reader.u16
  if !isSupported major minor then Reader.fail (.version major minor)
  let pool ← ConstantPool.read
  Reader.skip 2
  let thisClass ← Reader.u16
  let superClass ← Reader.u16
  let interfaces ← Attribute.counted Reader.u16 Reader.u16
  let _ ← Attribute.counted Reader.u16 (field pool)
  let _ ← Attribute.counted Reader.u16 (method pool)
  let annotations ← Attribute.readAll pool
  return ⟨pool, thisClass, superClass, interfaces, annotations⟩

/-- The results for all elements of a list, or the first fault. -/
def all {α β : Type} (f : α → Except Fault β) : List α → Except Fault (List β)
  | [] => .ok []
  | a :: as =>
    match f a with
    | .error fault => .error fault
    | .ok b => (all f as).map (b :: ·)

/-- The source name of the class at an index. -/
def nameAt (c : ClassFile) (index : Nat) : Except Fault Text :=
  (c.pool.className index).map binaryName

/-- What the file says about its class. -/
def record (c : ClassFile) : Except Fault ClassRecord := do
  let name ← c.nameAt c.thisClass
  let supertypes ←
    all c.nameAt (if c.superClass = 0 then c.interfaces else c.superClass :: c.interfaces)
  let annotations ← all (Entry.declared c.pool) c.annotations
  return ⟨⟨name, supertypes⟩, annotations⟩

/-- What the bytes of a class file say about its class. -/
def parse (bytes : Bytes) : Except Fault ClassRecord :=
  match read bytes with
  | .error fault => .error fault
  | .ok (c, _) => c.record

end ClassFile

end ServletRoutes
