import ServletRoutes.ClassFile.Reader
import ServletRoutes.ClassFile.ModifiedUtf8

/-!
# `ServletRoutes.ClassFile.ConstantPool`: the constants of a class file

The pool holds the texts and numbers that the rest of the file refers to by index, from one on.
Constants of eight bytes take two slots, the second of which is no entry.
-/

set_option autoImplicit false

namespace ServletRoutes.ClassFile

/-- A constant. Kinds that nothing here refers to are not told apart. -/
inductive Constant
  | utf8 (text : Text)
  | integer (bits : Nat)
  /-- A class, by the index of its name. -/
  | classInfo (nameIndex : Nat)
  | other
deriving DecidableEq

/-- The slots in order; the second slot of a constant of eight bytes holds nothing. -/
abbrev ConstantPool := List (Option Constant)

namespace ConstantPool

/-- The bytes of a text constant, decoded. -/
def text : Reader Constant := do
  let length ← Reader.u16
  let bytes ← Reader.take length
  match ModifiedUtf8.decode bytes with
  | .ok text => return .utf8 text
  | .error fault => Reader.fail (.text fault)

/-- A constant of a kind that only takes space. -/
def ofSize (n : Nat) : Reader Constant := do
  Reader.skip n
  return .other

/-- A constant after its tag. -/
def constantOf : Nat → Reader Constant
  | 1 => text
  | 3 => return .integer (← Reader.u32)
  | 4 => ofSize 4
  | 5 | 6 => ofSize 8
  | 7 => return .classInfo (← Reader.u16)
  | 8 | 16 | 19 | 20 => ofSize 2
  | 9 | 10 | 11 | 12 | 17 | 18 => ofSize 4
  | 15 => do
    let kind ← Reader.u8
    if 1 ≤ kind && kind ≤ 9 then ofSize 2 else Reader.fail (.referenceKind kind)
  | tag => Reader.fail (.constantTag tag)

/-- The slots of one constant. -/
def entry : Reader ConstantPool := do
  let tag ← Reader.u8
  let constant ← constantOf tag
  return if tag = 5 || tag = 6 then [some constant, none] else [some constant]

/-- Constants until at least so many slots are filled. -/
def slots : Nat → Reader ConstantPool
  | 0 => return []
  | 1 => entry
  | n + 2 => do
    let first ← entry
    -- a constant of eight bytes may fill a slot beyond the count
    let rest ← if first.length = 2 then slots n else slots (n + 1)
    return first ++ rest

/-- The pool with its count, which is one more than the number of slots. -/
def read : Reader ConstantPool := do
  match ← Reader.u16 with
  | 0 => Reader.fail .poolCountZero
  | n + 1 => slots n

/-! ### Looking up -/

/-- The constant at an index. -/
def constant (pool : ConstantPool) : Nat → Except Fault Constant
  | 0 => .error (.poolIndex 0)
  | n + 1 =>
    match pool[n]? with
    | some (some constant) => .ok constant
    | _ => .error (.poolIndex (n + 1))

/-- The text at an index. -/
def utf8 (pool : ConstantPool) (index : Nat) : Except Fault Text :=
  match pool.constant index with
  | .ok (.utf8 text) => .ok text
  | .ok _ => .error (.poolIndexKind index)
  | .error fault => .error fault

/-- The integer at an index. -/
def integer (pool : ConstantPool) (index : Nat) : Except Fault Nat :=
  match pool.constant index with
  | .ok (.integer bits) => .ok bits
  | .ok _ => .error (.poolIndexKind index)
  | .error fault => .error fault

/-- The internal name of the class at an index. -/
def className (pool : ConstantPool) (index : Nat) : Except Fault Text :=
  match pool.constant index with
  | .ok (.classInfo nameIndex) => pool.utf8 nameIndex
  | .ok _ => .error (.poolIndexKind index)
  | .error fault => .error fault

end ConstantPool

end ServletRoutes.ClassFile
