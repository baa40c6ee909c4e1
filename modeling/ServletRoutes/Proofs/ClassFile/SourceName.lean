import Mathlib.Data.List.Basic
import ServletRoutes.Proofs.ClassFile.Descriptor
import ServletRoutes.Proofs.Text.Replacement

/-!
# `ServletRoutes.Proofs.ClassFile.SourceName`: the source names of types

A type of the virtual machine is an element type under some number of array
dimensions. Its descriptor has one bracket for each dimension in front, its
source name one pair of brackets for each behind (`descriptor_eq`,
`sourceName_eq`). `nameOfDescriptor_replicate` follows a descriptor through
the brackets to the element, whatever it is, so it also tells which
descriptors of arrays are refused.

`nameOfDescriptor_legal` puts this together: the source name is found for
every legal type, and the class can be told from it.
-/

set_option autoImplicit false

namespace ServletRoutes.ClassFile

variable {name : Text}

/-! ### Class names -/

/-- The characters that no part of a class name may hold. -/
def reservedSigns : List Char := ['.', ';', '[', '(', ')']

/-- A class name with slashes: none of its parts is empty or holds a reserved sign. -/
def IsInternalName (name : Text) : Prop :=
  ∀ part ∈ Text.splitOn '/' name, part ≠ [] ∧ ∀ c ∈ reservedSigns, c ∉ part

instance : Decidable (IsInternalName name) :=
  decidable_of_iff ((Text.splitOn '/' name).all fun part =>
    part ≠ [] && reservedSigns.all (· ∉ part)) (by simp [IsInternalName])

/-- A class name holds none of the reserved signs. -/
theorem IsInternalName.notMem (h : IsInternalName name) {c : Char} (hc : c ∈ reservedSigns) :
    c ∉ name := by
  have hne : c ≠ '/' := ne_of_mem_of_not_mem hc (by decide)
  rw [← Text.join_splitOn '/' name]
  exact Text.notMem_join hne fun part hpart => (h part hpart).2 c hc

/-- The class name is found again from the source name. -/
theorem IsInternalName.replace_binaryName (h : IsInternalName name) :
    Text.replace '.' '/' (binaryName name) = name :=
  Text.replace_replace (h.notMem (by decide))

namespace JavaType

/-! ### Dimensions -/

/-- The number of array dimensions. -/
def depth : JavaType → Nat
  | base _ | object _ => 0
  | array component => component.depth + 1

/-- The type without its array dimensions. -/
def element : JavaType → JavaType
  | base type => base type
  | object internalName => object internalName
  | array component => component.element

/-- The virtual machine has such types: at most 255 dimensions, and classes by their names. -/
structure IsLegal (t : JavaType) : Prop where
  depth_le : t.depth ≤ 255
  internalName : ∀ name, t.element = object name → IsInternalName name

/-- An element is no array. -/
theorem element_cases (t : JavaType) :
    (∃ type, t.element = base type) ∨ ∃ name, t.element = object name := by
  induction t with
  | base type => exact .inl ⟨type, rfl⟩
  | object name => exact .inr ⟨name, rfl⟩
  | array component ih => exact ih

/-- A descriptor has a bracket for each dimension in front of the element's. -/
theorem descriptor_eq (t : JavaType) :
    t.descriptor = List.replicate t.depth '[' ++ t.element.descriptor := by
  induction t with
  | base type => rfl
  | object name => rfl
  | array component ih => rw [descriptor, ih, depth, List.replicate_succ, element, List.cons_append]

/-- A source name has a pair of brackets for each dimension behind the element's. -/
theorem sourceName_eq (t : JavaType) :
    t.sourceName = t.element.sourceName ++ (List.replicate t.depth "[]".toList).flatten := by
  induction t with
  | base type => exact (List.append_nil _).symm
  | object name => exact (List.append_nil _).symm
  | array component ih =>
    rw [sourceName, ih, depth, List.replicate_succ', List.flatten_concat, element,
      List.append_assoc]

/-- What the format allows is well formed. -/
theorem IsLegal.isWellFormed {t : JavaType} (h : t.IsLegal) : t.isWellFormed = true := by
  have hname := h.internalName
  clear h
  induction t with
  | base type => rfl
  | object name => exact decide_eq_true ((hname name rfl).notMem (by decide))
  | array component ih => exact ih hname

/-- The element's name has no brackets, so the name of the type has one pair for each dimension. -/
theorem IsLegal.count_bracket {t : JavaType} (h : t.IsLegal) :
    t.sourceName.count '[' = t.depth := by
  have hpairs : (List.replicate t.depth "[]".toList).flatten.count '[' = t.depth := by
    rw [List.count_flatten, List.map_replicate, List.sum_replicate_nat]
    exact Nat.mul_one _
  have helement : t.element.sourceName.count '[' = 0 := by
    rw [List.count_eq_zero]
    rcases t.element_cases with ⟨type, htype⟩ | ⟨name, hobject⟩
    · rw [htype]
      cases type <;> decide
    · rw [hobject, sourceName, binaryName, Text.replace]
      intro hmem
      obtain ⟨c, hc, heq⟩ := List.mem_map.mp hmem
      have hne : c ≠ '[' :=
        ne_of_mem_of_not_mem hc ((h.internalName name hobject).notMem (by decide))
      split at heq
      · simp at heq
      · exact hne heq
  rw [sourceName_eq, List.count_append, helement, hpairs, Nat.zero_add]

end JavaType

/-! ### Reading descriptors -/

/-- Brackets in front of a descriptor add a dimension each. -/
theorem typeOfDescriptor_replicate (whole rest : Text) (depth : Nat) :
    typeOfDescriptor whole (List.replicate depth '[' ++ rest) =
      (typeOfDescriptor whole rest).map (Nat.repeat JavaType.array depth) := by
  induction depth with
  | zero =>
    rw [List.replicate_zero, List.nil_append]
    cases typeOfDescriptor whole rest <;> rfl
  | succ depth ih =>
    rw [List.replicate_succ, List.cons_append, typeOfDescriptor, ih]
    cases typeOfDescriptor whole rest <;> rfl

/-- A descriptor that begins with a bracket is never that of no type. -/
theorem nameOfDescriptor_replicate {depth : Nat} (h : 0 < depth) (rest : Text) :
    nameOfDescriptor (List.replicate depth '[' ++ rest) =
      (typeOfDescriptor (List.replicate depth '[' ++ rest) rest).map fun element =>
        (Nat.repeat JavaType.array depth element).sourceName := by
  obtain ⟨n, rfl⟩ := Nat.exists_eq_succ_of_ne_zero (Nat.ne_of_gt h)
  have hname : nameOfDescriptor (List.replicate (n + 1) '[' ++ rest) =
      (typeOfDescriptor (List.replicate (n + 1) '[' ++ rest)
        (List.replicate (n + 1) '[' ++ rest)).map JavaType.sourceName := rfl
  rw [hname, typeOfDescriptor_replicate]
  cases typeOfDescriptor (List.replicate (n + 1) '[' ++ rest) rest <;> rfl

/-- Looking up the source name of a descriptor undoes writing it, for every type of the virtual machine.

The descriptor of a legal type is one bracket for each dimension and the descriptor of its element. It
gives the keyword of a base type, or the class name with dots for its slashes, followed by a pair of
brackets for each dimension and no other brackets; the class name is found again from the source name.
The letter for no type gives `void`, and no array is made of it or of nothing. -/
theorem nameOfDescriptor_legal :
    (∀ t : JavaType, t.IsLegal →
      t.descriptor = List.replicate t.depth '[' ++ t.element.descriptor ∧
      nameOfDescriptor t.descriptor = .ok t.sourceName ∧
      t.sourceName = t.element.sourceName ++ (List.replicate t.depth "[]".toList).flatten ∧
      t.sourceName.count '[' = t.depth ∧
      ((∃ type : BaseType, t.element.descriptor = [type.letter] ∧
          t.element.sourceName = type.keyword.toList) ∨
        ∃ name, t.element.descriptor = 'L' :: name ++ [';'] ∧ IsInternalName name ∧
          t.element.sourceName = Text.replace '/' '.' name ∧
          Text.replace '.' '/' t.element.sourceName = name)) ∧
    nameOfDescriptor ReturnType.void.descriptor = .ok "void".toList ∧
    ∀ depth, 0 < depth →
      (∀ rest, nameOfDescriptor (List.replicate depth '[' ++ 'V' :: rest) = .error (.baseType 'V')) ∧
      nameOfDescriptor (List.replicate depth '[') =
        .error (.methodDescriptor ("()".toList ++ List.replicate depth '[')) := by
  refine ⟨fun t h => ⟨t.descriptor_eq, t.nameOfDescriptor_descriptor h.isWellFormed,
    t.sourceName_eq, h.count_bracket, ?_⟩, rfl, fun depth hdepth => ⟨fun rest => ?_, ?_⟩⟩
  -- below its dimensions a type is a base type or a class
  · rcases t.element_cases with ⟨type, htype⟩ | ⟨name, hobject⟩
    · exact .inl ⟨type, by rw [htype]; rfl, by rw [htype]; rfl⟩
    · have hname := h.internalName name hobject
      refine .inr ⟨name, by rw [hobject]; rfl, hname, by rw [hobject]; rfl, ?_⟩
      rw [hobject]
      exact hname.replace_binaryName
  · rw [nameOfDescriptor_replicate hdepth]
    rfl
  · have hname := nameOfDescriptor_replicate hdepth []
    rw [List.append_nil] at hname
    rw [hname]
    rfl

/-- Three dimensions of a nested class. -/
def nestedPanels : JavaType := .array (.array (.array (.object "app/Panel$Row".toList)))

/-- The sign between a class and the one around it is kept. -/
theorem nameOfDescriptor_legal_nestedPanels :
    nestedPanels.IsLegal ∧ nestedPanels.descriptor = "[[[Lapp/Panel$Row;".toList ∧
      nameOfDescriptor nestedPanels.descriptor = .ok "app.Panel$Row[][][]".toList ∧
      nameOfDescriptor "[[V".toList = .error (.baseType 'V') := by
  have h : nestedPanels.IsLegal := by
    refine ⟨by decide, fun name hname => ?_⟩
    obtain rfl := JavaType.object.inj hname
    decide +kernel
  obtain ⟨hlegal, -, hrefused⟩ := nameOfDescriptor_legal
  exact ⟨h, rfl, (hlegal nestedPanels h).2.1, (hrefused 2 (by decide)).1 []⟩

end ServletRoutes.ClassFile
