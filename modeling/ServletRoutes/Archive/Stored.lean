import ServletRoutes.Archive.Basic
import ServletRoutes.Archive.Checksum
import ServletRoutes.Archive.Decoders
import ServletRoutes.Archive.Number
import ServletRoutes.Text.Utf8

/-!
# `ServletRoutes.Archive.Stored`: archives as bytes

An archive begins with its entries, each with a record in front of its bytes. Then comes a
directory with a record of each entry, which tells where the entry begins, and last an end record,
which tells where the directory begins. The bytes of an entry may be compressed.
-/

set_option autoImplicit false

namespace ServletRoutes

/-- An entry as it is stored. -/
structure StoredEntry where
  name : Text
  /-- The bytes as they are stored. -/
  bytes : Bytes
  /-- The checksum that is recorded for the bytes before they are compressed. -/
  checksum : UInt32 := Archive.checksum bytes
  encrypted : Bool := false
  /-- The method by which the bytes are said to be compressed. -/
  method : Nat := Archive.storingMethod
deriving DecidableEq

namespace Archive

/-! ### Signatures and flags -/

/-- Every record begins with these two bytes. -/
def mark : Bytes := [0x50, 0x4B]

/-- A record in front of the bytes of an entry. -/
def entrySignature : Bytes := mark ++ [3, 4]

/-- A record in the directory. -/
def directorySignature : Bytes := mark ++ [1, 2]

/-- The record at the end. -/
def endSignature : Bytes := mark ++ [5, 6]

/-- The flag of an encrypted entry. -/
def encryptedFlag : Nat := 1

/-- The flag of an entry whose name is UTF-8. -/
def utf8Flag : Nat := 0x800

/-! ### Records -/

/-- The version of the format that is needed to read an entry, and that of the writer. -/
def version : Nat := 20

/-- The first day that a record can tell, the first of January 1980. -/
def firstDay : Nat := 0x21

/-- The flags of an entry. -/
def flagsOf (e : StoredEntry) : Nat := utf8Flag + if e.encrypted then encryptedFlag else 0

/-- The size that is recorded for the bytes of an entry before they are compressed. Where these are not
known, it is that of the stored bytes. -/
def plainSize (e : StoredEntry) : Nat :=
  let plain? := (Decoders.standard.find? e.method).bind fun decode => decode 0 e.bytes
  (plain?.getD e.bytes).length

/-- What both records of an entry tell about it. -/
def details (e : StoredEntry) : Bytes :=
  numberBytes 2 version ++ numberBytes 2 (flagsOf e) ++ numberBytes 2 e.method ++
    numberBytes 2 0 ++ numberBytes 2 firstDay ++ numberBytes 4 e.checksum.toNat ++
    numberBytes 4 e.bytes.length ++ numberBytes 4 (plainSize e) ++
    numberBytes 2 (Text.Utf8.encode e.name).length ++ numberBytes 2 0

/-- An entry with its record. -/
def entryRecord (e : StoredEntry) : Bytes :=
  entrySignature ++ details e ++ Text.Utf8.encode e.name ++ e.bytes

/-- The record in the directory of an entry that begins at an offset. -/
def directoryRecord (offset : Nat) (e : StoredEntry) : Bytes :=
  directorySignature ++ numberBytes 2 version ++ details e ++ numberBytes 6 0 ++ numberBytes 4 0 ++
    numberBytes 4 offset ++ Text.Utf8.encode e.name

/-- All entries with their records. -/
def entriesPart (entries : List StoredEntry) : Bytes := entries.flatMap entryRecord

/-- The directory of entries the first of which begins at an offset. -/
def directoryPart : Nat → List StoredEntry → Bytes
  | _, [] => []
  | offset, e :: es =>
    directoryRecord offset e ++ directoryPart (offset + (entryRecord e).length) es

/-- The end record, by the number of entries and the size and offset of the directory. -/
def endPart (count size offset : Nat) : Bytes :=
  endSignature ++ numberBytes 4 0 ++ numberBytes 2 count ++ numberBytes 2 count ++
    numberBytes 4 size ++ numberBytes 4 offset ++ numberBytes 2 0

/-- The bytes of an archive into which entries are written one after the other. -/
def bytesOf (entries : List StoredEntry) : Bytes :=
  let front := entriesPart entries
  let directory := directoryPart 0 entries
  front ++ directory ++ endPart entries.length directory.length front.length

end Archive

end ServletRoutes
