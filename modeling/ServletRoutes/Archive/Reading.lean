import ServletRoutes.Archive.Name
import ServletRoutes.Archive.Stored

/-!
# `ServletRoutes.Archive.Reading`: archives from their bytes

An archive is read from its end: the end record tells where the directory begins and how many
entries there are, and the directory where each entry lies, how its bytes are compressed and what
their checksum is.

An entry does not open if it is encrypted, compressed by a method without a decoder, or not where
the directory says. If its bytes cannot be decompressed, or not to bytes with the checksum, it opens
but cannot be read.
-/

set_option autoImplicit false

namespace ServletRoutes.Archive

/-- The bytes begin with a signature. -/
def isSigned (signature : Bytes) (bytes : Bytes) : Bool := signature.isPrefixOf bytes

/-! ### Entries -/

/-- The record in front of an entry has a fixed part of this size. -/
def entryRecordSize : Nat := 30

/-- The stored bytes of an entry whose record is at the beginning. -/
def storedBytes? (size : Nat) (bytes : Bytes) : Option Bytes :=
  if isSigned entrySignature bytes then
    some ((bytes.drop (entryRecordSize + numberAt bytes 26 2 + numberAt bytes 28 2)).take size)
  else none

/-- A flag is among flags. -/
def hasFlag (flag flags : Nat) : Bool := flags / flag % 2 = 1

/-- The content with bytes that were decompressed, which have to have a checksum. -/
def checked (sum : Nat) : Option Bytes → EntryContent
  | some bytes => if (checksum bytes).toNat = sum then .intact bytes else .damaged
  | none => .damaged

/-- The content of the entry of a directory record. -/
def contentOf (decoders : Decoders) (whole : Bytes) (record : Bytes) : EntryContent :=
  match storedBytes? (numberAt record 20 4) (whole.drop (numberAt record 42 4)) with
  | none => .sealed
  | some stored =>
    if hasFlag encryptedFlag (numberAt record 8 2) then .sealed
    else
      match decoders.find? (numberAt record 10 2) with
      | none => .sealed
      | some decode => checked (numberAt record 16 4) (decode (numberAt record 24 4) stored)

/-- A directory record has a fixed part of this size. -/
def directoryRecordSize : Nat := 46

/-- So many entries of a directory at the beginning of the rest. -/
def entriesFrom (decoders : Decoders) (whole : Bytes) : Nat → Bytes → Option (List ArchiveEntry)
  | 0, _ => some []
  | count + 1, rest =>
    if isSigned directorySignature rest then
      let nameSize := numberAt rest 28 2
      let name := nameOf (hasFlag utf8Flag (numberAt rest 8 2))
        ((rest.drop directoryRecordSize).take nameSize)
      let size := directoryRecordSize + nameSize + numberAt rest 30 2 + numberAt rest 32 2
      (entriesFrom decoders whole count (rest.drop size)).map
        (⟨name, contentOf decoders whole rest⟩ :: ·)
    else none

/-! ### Archives -/

/-- An end record without its comment has this size. -/
def endRecordSize : Nat := 22

/-- The last end record in bytes, with what follows it. -/
def endRecord? (bytes : Bytes) : Option Bytes :=
  let offsets := (List.range (bytes.length + 1 - endRecordSize)).reverse
  (offsets.find? fun n => isSigned endSignature (bytes.drop n)).map fun n => bytes.drop n

/-- The comment after an end record is at most so long. -/
def commentLimit : Nat := 0xFFFF

/-- The last bytes, where an end record can begin. -/
def lastBytes (bytes : Bytes) : Bytes :=
  bytes.drop (bytes.length - (endRecordSize + commentLimit))

/-- The archive that bytes hold. -/
def ofBytes? (decoders : Decoders) (bytes : Bytes) : Option Archive :=
  (endRecord? (lastBytes bytes)).bind fun record =>
    (entriesFrom decoders bytes (numberAt record 10 2) (bytes.drop (numberAt record 16 4))).map
      ofEntries

end ServletRoutes.Archive
