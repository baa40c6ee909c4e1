import ServletRoutes.Archive.Inflate

/-!
# `ServletRoutes.Archive.Decoders`: methods of compression

The record of an entry names the method by which its bytes are compressed. Method 0 leaves them as
they are. Which other methods there are, and what they do, is a table that comes with the reader of
an archive. The standard table has the method of nearly all archives, which deflates.
-/

set_option autoImplicit false

namespace ServletRoutes.Archive

/-- The method by which bytes are stored as they are. -/
def storingMethod : Nat := 0

/-- The method by which bytes are deflated. -/
def deflatingMethod : Nat := 8

/-- What undoes a method of compression. It is told the size that is recorded for its outcome, and has no
outcome for bytes that the method does not give. -/
abbrev Decoder := Nat → Bytes → Option Bytes

/-- The methods that are supported besides storing bytes as they are. -/
structure Decoders where
  decoder? : Nat → Option Decoder

namespace Decoders

/-- What undoes a method, if it is supported. -/
def find? (decoders : Decoders) (method : Nat) : Option Decoder :=
  if method = storingMethod then some fun _ bytes => some bytes else decoders.decoder? method

/-- Bytes can be deflated. -/
def standard : Decoders where
  decoder? method := if method = deflatingMethod then some fun _ bytes => inflate bytes else none

/-- Every table supports bytes that are stored as they are. -/
@[simp] theorem find?_storing (decoders : Decoders) :
    decoders.find? storingMethod = some fun _ bytes => some bytes := if_pos rfl

/-- The library decodes what was deflated. -/
@[simp] theorem find?_standard_deflating :
    standard.find? deflatingMethod = some fun _ bytes => inflate bytes := rfl

end Decoders

end ServletRoutes.Archive
