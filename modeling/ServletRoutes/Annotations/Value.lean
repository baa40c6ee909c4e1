import ServletRoutes.Text.Basic

/-!
# `ServletRoutes.Annotations.Value`: annotations as compiled classes declare them

An annotation has a type and named members. The tokens of a member's value are its scalars in
the order in which they stand, at any depth; what cannot be told as a text has none.
-/

set_option autoImplicit false

namespace ServletRoutes

namespace Annotations

/-- The value of an annotation member. -/
inductive Value
  | text (content : Text)
  /-- A class literal, by its source name. -/
  | typeRef (name : Text)
  | boolean (value : Bool)
  | enumConstant (typeName constant : Text)
  | array (items : List Value)
  /-- Numbers, characters and nested annotations, described for messages only. -/
  | unsupported (description : Text)

namespace Value

mutual

/-- The scalars of a value, from left to right. -/
def tokens : Value → List Text
  | text content => [content]
  | typeRef name => [name]
  | boolean value => [if value then "true".toList else "false".toList]
  | enumConstant _ constant => [constant]
  | array items => tokensOf items
  | unsupported _ => []

/-- The scalars of several values, one value after the other. -/
def tokensOf : List Value → List Text
  | [] => []
  | item :: items => item.tokens ++ tokensOf items

end

end Value

/-- An annotation as declared on a type. -/
structure Declared where
  typeName : Text
  members : List (Text × Value)

/-- The value of the first member with a name. -/
def Declared.member? (a : Declared) (name : Text) : Option Value :=
  (a.members.find? fun (n, _) => n = name).map (·.2)

end Annotations

/-- A type with the names of its direct supertypes, the superclass first. -/
structure TypeDeclaration where
  name : Text
  supertypes : List Text
deriving DecidableEq

/-- What a compiled class says about itself. -/
structure ClassRecord where
  declaration : TypeDeclaration
  annotations : List Annotations.Declared

end ServletRoutes
