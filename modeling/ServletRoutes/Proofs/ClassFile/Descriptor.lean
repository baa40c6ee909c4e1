import ServletRoutes.ClassFile.Descriptor

/-!
# `ServletRoutes.Proofs.ClassFile.Descriptor`: descriptors name their types

A well-formed type is found again from its descriptor, so looking up the
source name of a descriptor gives the source name of the type.
-/

set_option autoImplicit false

namespace ServletRoutes.ClassFile

/-- The sign that ends a class name is not part of it. -/
theorem takeWhile_append_semicolon {internalName : Text} (h : ';' ∉ internalName) :
    (internalName ++ [';']).takeWhile (fun c => c ≠ ';') = internalName := by
  have hinside : ∀ c ∈ internalName, decide (c ≠ ';') = true :=
    fun c hc => decide_eq_true (ne_of_mem_of_not_mem hc h)
  rw [List.takeWhile_append_of_pos hinside]
  simp

namespace JavaType

/-- The descriptor of a type is read as the type, whatever text it is a part of. -/
theorem typeOfDescriptor_descriptor (type : JavaType) (h : type.isWellFormed = true) (whole : Text) :
    typeOfDescriptor whole type.descriptor = .ok type := by
  induction type with
  | base type => cases type <;> rfl
  | object internalName =>
    rw [descriptor, List.cons_append, typeOfDescriptor,
      takeWhile_append_semicolon (of_decide_eq_true h)]
  | array component ih =>
    rw [descriptor, typeOfDescriptor, ih h]
    rfl

/-- The descriptor of a type is named as the type is in the source. -/
theorem nameOfDescriptor_descriptor (type : JavaType) (h : type.isWellFormed = true) :
    nameOfDescriptor type.descriptor = .ok type.sourceName := by
  have htype := typeOfDescriptor_descriptor type h type.descriptor
  -- no type begins with the letter that stands for none
  have hname : nameOfDescriptor type.descriptor =
      (typeOfDescriptor type.descriptor type.descriptor).map sourceName := by
    cases type with
    | base type => cases type <;> rfl
    | object internalName => rfl
    | array component => rfl
  rw [hname, htype]
  rfl

end JavaType

/-- The descriptor of a return type is named as the type is in the source, `void` among them. -/
theorem ReturnType.nameOfDescriptor_descriptor (type : ReturnType) (h : type.isWellFormed = true) :
    nameOfDescriptor type.descriptor = .ok type.sourceName := by
  cases type with
  | void => rfl
  | value type => exact type.nameOfDescriptor_descriptor h

end ServletRoutes.ClassFile
