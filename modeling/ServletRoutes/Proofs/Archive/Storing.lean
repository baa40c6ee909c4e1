import Mathlib.Tactic.MkIffOfInductiveProp
import ServletRoutes.Archive.Reading
import ServletRoutes.Proofs.Archive.Deflate

/-!
# `ServletRoutes.Proofs.Archive.Storing`: a stored archive reads back

`bytesOf` writes entries one behind the other, then a directory that says where
each of them begins, then an end record that says where the directory begins.
`ofBytes?` goes the other way, from the end record to the directory and from
there to each entry. `ofBytes?_bytesOf` says that it finds every entry again,
with what is known of its content (`StoredEntry.content`), as long as the sizes
and offsets fit into the fields of the records (`Storable`).

A field of a record is reached by skipping the fields before it
(`numberAt_append_right`), and then holds the number that was written
(`numberAt_append_self`).
-/

set_option autoImplicit false

namespace ServletRoutes

namespace StoredEntry

open Archive (Decoders)

/-- What opening and reading an entry gives. -/
def content (decoders : Decoders) (e : StoredEntry) : EntryContent :=
  if e.encrypted then .sealed
  else
    match decoders.find? e.method with
    | none => .sealed
    | some decode =>
      match decode (Archive.plainSize e) e.bytes with
      | some bytes => if e.checksum = Archive.checksum bytes then .intact bytes else .damaged
      | none => .damaged

/-- The entry of an archive that is stored like this. -/
def opened (decoders : Decoders) (e : StoredEntry) : ArchiveEntry := ⟨e.name, e.content decoders⟩

/-- An entry does not open exactly when it is encrypted or compressed by a method that is not
supported. -/
theorem content_eq_sealed_iff {decoders : Decoders} {e : StoredEntry} :
    e.content decoders = .sealed ↔ e.encrypted = true ∨ decoders.find? e.method = none := by
  cases hencrypted : e.encrypted with
  | true => simp [content, hencrypted]
  | false =>
    cases hfind : decoders.find? e.method with
    | none => simp [content, hencrypted, hfind]
    | some decode =>
      simp only [content, hencrypted, hfind, Bool.false_eq_true, if_false, reduceCtorEq, or_self,
        iff_false]
      split
      · split <;> exact EntryContent.noConfusion
      · exact EntryContent.noConfusion

/-- An entry with deflated bytes. -/
def deflated (name : Text) (bytes : Bytes) : StoredEntry where
  name := name
  bytes := Archive.deflate bytes
  checksum := Archive.checksum bytes
  method := Archive.deflatingMethod

/-- Deflated bytes are read by the standard decoders. -/
theorem opened_deflated (name : Text) (bytes : Bytes) :
    (deflated name bytes).opened .standard = ⟨name, .intact bytes⟩ := by
  simp [opened, content, deflated, Archive.inflate_deflate]

/-- Bytes that are stored as they are are read by any decoders. -/
theorem opened_stored (decoders : Decoders) (name : Text) (bytes : Bytes) :
    StoredEntry.opened decoders { name := name, bytes := bytes } = ⟨name, .intact bytes⟩ := by
  simp [opened, content]

end StoredEntry

namespace Archive

variable {e : StoredEntry} {entries : List StoredEntry}

/-! ### Fields -/

/-- A field is reached by skipping what stands before it. -/
theorem numberAt_append_right {front rest : Bytes} {offset size : Nat} (h : front.length ≤ offset) :
    numberAt (front ++ rest) offset size = numberAt rest (offset - front.length) size := by
  rw [numberAt, numberAt, List.drop_append, List.drop_eq_nil_of_le h, List.nil_append]

/-- A field holds the number that was written, if that fits. -/
theorem numberAt_append_self {size n : Nat} (h : n < Nat.pow 0x100 size) (rest : Bytes) :
    numberAt (numberBytes size n ++ rest) 0 size = n := by
  have htake : (numberBytes size n ++ rest).take size = numberBytes size n := by
    rw [List.take_append_of_le_length (by simp), List.take_of_length_le (by simp)]
  rw [numberAt, List.drop_zero, htake, number_bytes h]

/-- What begins with a signature is signed with it. -/
theorem isSigned_append (signature rest : Bytes) : isSigned signature (signature ++ rest) = true := by
  simp [isSigned]

/-- The signature of an entry takes four bytes. -/
@[simp] theorem length_entrySignature : entrySignature.length = 4 := by simp [entrySignature, mark]

/-- The signature of a record of the directory takes four bytes. -/
@[simp] theorem length_directorySignature : directorySignature.length = 4 := by
  simp [directorySignature, mark]

/-- The signature of the end record takes four bytes. -/
@[simp] theorem length_endSignature : endSignature.length = 4 := by simp [endSignature, mark]

/-! ### The record of an entry -/

/-- The details of an entry take 26 bytes. -/
@[simp] theorem length_details (e : StoredEntry) : (details e).length = 26 := by simp [details]

/-- The bytes of an entry stand behind its record and its name. -/
theorem storedBytes?_entryRecord (h : (Text.Utf8.encode e.name).length < 0x10000) (rest : Bytes) :
    storedBytes? e.bytes.length (entryRecord e ++ rest) = some e.bytes := by
  have hname : (Text.Utf8.encode e.name).length < Nat.pow 0x100 2 := h
  have hzero : 0 < Nat.pow 0x100 2 := by decide
  -- the two sizes in the record tell where the bytes begin
  have hnameSize : numberAt (entryRecord e ++ rest) 26 2 = (Text.Utf8.encode e.name).length := by
    simp [entryRecord, details, numberAt_append_right, numberAt_append_self hname]
  have hextraSize : numberAt (entryRecord e ++ rest) 28 2 = 0 := by
    simp [entryRecord, details, numberAt_append_right, numberAt_append_self hzero]
  have hsigned : isSigned entrySignature (entryRecord e ++ rest) = true := by
    rw [entryRecord, List.append_assoc, List.append_assoc, List.append_assoc]
    exact isSigned_append _ _
  -- what stands before the bytes is as long as the sizes tell
  have hfront : entryRecordSize + (Text.Utf8.encode e.name).length + 0 =
      (entrySignature ++ details e ++ Text.Utf8.encode e.name).length := by
    simp only [entryRecordSize, List.length_append, length_entrySignature, length_details]
    omega
  have hdrop : (entryRecord e ++ rest).drop (entryRecordSize + (Text.Utf8.encode e.name).length + 0) =
      e.bytes ++ rest := by
    rw [hfront, entryRecord, List.append_assoc _ e.bytes rest, List.drop_left]
  rw [storedBytes?, if_pos hsigned, hnameSize, hextraSize, hdrop, List.take_left]

/-! ### The directory -/

/-- The sizes of an entry fit into the fields of its records. -/
@[mk_iff]
structure Fits (e : StoredEntry) : Prop where
  name : (Text.Utf8.encode e.name).length < 0x10000
  method : e.method < 0x10000
  bytes : e.bytes.length < 0x100000000
  plain : plainSize e < 0x100000000

instance (e : StoredEntry) : Decidable (Fits e) := decidable_of_iff _ (fits_iff e).symm

/-- A record of the directory says these things about an entry. -/
structure Describes (record : Bytes) (offset : Nat) (e : StoredEntry) : Prop where
  flags : numberAt record 8 2 = flagsOf e
  method : numberAt record 10 2 = e.method
  checksum : numberAt record 16 4 = e.checksum.toNat
  size : numberAt record 20 4 = e.bytes.length
  plainSize : numberAt record 24 4 = plainSize e
  nameSize : numberAt record 28 2 = (Text.Utf8.encode e.name).length
  extraSize : numberAt record 30 2 = 0
  commentSize : numberAt record 32 2 = 0
  offset : numberAt record 42 4 = offset

/-- The record of an entry describes it. -/
theorem describes_directoryRecord (h : Fits e) {offset : Nat} (hoffset : offset < 0x100000000)
    (rest : Bytes) : Describes (directoryRecord offset e ++ rest) offset e := by
  -- every number fits into its field
  have hflags : flagsOf e < Nat.pow 0x100 2 := by
    unfold flagsOf
    split <;> decide
  have hmethod : e.method < Nat.pow 0x100 2 := h.method
  have hchecksum : e.checksum.toNat < Nat.pow 0x100 4 := e.checksum.toNat_lt
  have hsize : e.bytes.length < Nat.pow 0x100 4 := h.bytes
  have hplain : plainSize e < Nat.pow 0x100 4 := h.plain
  have hname : (Text.Utf8.encode e.name).length < Nat.pow 0x100 2 := h.name
  have hzero : 0 < Nat.pow 0x100 2 := by decide
  have hplace : offset < Nat.pow 0x100 4 := hoffset
  constructor
  · simp [directoryRecord, details, numberAt_append_right, numberAt_append_self hflags]
  · simp [directoryRecord, details, numberAt_append_right, numberAt_append_self hmethod]
  · simp [directoryRecord, details, numberAt_append_right, numberAt_append_self hchecksum]
  · simp [directoryRecord, details, numberAt_append_right, numberAt_append_self hsize]
  · simp [directoryRecord, details, numberAt_append_right, numberAt_append_self hplain]
  · simp [directoryRecord, details, numberAt_append_right, numberAt_append_self hname]
  · simp [directoryRecord, details, numberAt_append_right, numberAt_append_self hzero]
  · -- the comment size is the beginning of a longer field of zeros
    have hzeros : numberBytes 6 0 = numberBytes 2 0 ++ numberBytes 4 0 := rfl
    simp [directoryRecord, details, hzeros, numberAt_append_right, numberAt_append_self hzero]
  · simp [directoryRecord, details, numberAt_append_right, numberAt_append_self hplace]

/-- A record of the directory is signed. -/
theorem isSigned_directoryRecord (offset : Nat) (e : StoredEntry) (rest : Bytes) :
    isSigned directorySignature (directoryRecord offset e ++ rest) = true := by
  simp only [directoryRecord, List.append_assoc]
  exact isSigned_append _ _

/-- A record of the directory takes its fixed part and the name. -/
theorem length_directoryRecord (offset : Nat) (e : StoredEntry) :
    (directoryRecord offset e).length = directoryRecordSize + (Text.Utf8.encode e.name).length := by
  simp only [directoryRecord, directoryRecordSize, List.length_append, length_directorySignature,
    length_details, length_numberBytes]

/-- The name of an entry stands behind its record. -/
theorem name_directoryRecord (offset : Nat) (e : StoredEntry) (rest : Bytes) :
    ((directoryRecord offset e ++ rest).drop directoryRecordSize).take
      (Text.Utf8.encode e.name).length = Text.Utf8.encode e.name := by
  have hfront : directoryRecordSize =
      (directorySignature ++ numberBytes 2 version ++ details e ++ numberBytes 6 0 ++ numberBytes 4 0 ++
        numberBytes 4 offset).length := by
    simp [directoryRecordSize]
  rw [hfront, directoryRecord, List.append_assoc _ (Text.Utf8.encode e.name) rest, List.drop_left,
    List.take_left]

/-- An encrypted entry is marked as such. -/
theorem hasFlag_encryptedFlag (e : StoredEntry) : hasFlag encryptedFlag (flagsOf e) = e.encrypted := by
  cases hencrypted : e.encrypted <;> simp [hasFlag, flagsOf, hencrypted, utf8Flag, encryptedFlag]

/-- Every name is marked as UTF-8. -/
theorem hasFlag_utf8Flag (e : StoredEntry) : hasFlag utf8Flag (flagsOf e) = true := by
  cases hencrypted : e.encrypted <;> simp [hasFlag, flagsOf, hencrypted, utf8Flag, encryptedFlag]

/-- The content of a described entry is the one that was stored. -/
theorem contentOf_eq (decoders : Decoders) (h : Fits e) {whole record rest : Bytes} {offset : Nat}
    (hrecord : Describes record offset e) (hwhole : whole.drop offset = entryRecord e ++ rest) :
    contentOf decoders whole record = e.content decoders := by
  simp only [contentOf, hrecord.size, hrecord.offset, hwhole, storedBytes?_entryRecord h.name,
    hrecord.flags, hrecord.method, hrecord.checksum, hrecord.plainSize, hasFlag_encryptedFlag,
    StoredEntry.content]
  cases e.encrypted with
  | true => rfl
  | false =>
    cases decoders.find? e.method with
    | none => rfl
    | some decode =>
      cases hplain : decode (plainSize e) e.bytes with
      | none => simp [checked, hplain]
      | some bytes => simp [checked, hplain, UInt32.toNat_inj, eq_comm]

/-- The directory of entries leads to each of them. The induction moves every entry that has been read to
the front. -/
theorem entriesFrom_directoryPart (decoders : Decoders) (hfits : ∀ e ∈ entries, Fits e)
    {whole front after : Bytes} (hwhole : whole = front ++ entriesPart entries ++ after)
    (hsize : front.length + (entriesPart entries).length < 0x100000000) (rest : Bytes) :
    entriesFrom decoders whole entries.length (directoryPart front.length entries ++ rest) =
      some (entries.map (StoredEntry.opened decoders)) := by
  induction entries generalizing front with
  | nil => rfl
  | cons e entries ih =>
    -- the entry begins where the front ends, which is what its record says
    have hparts : entriesPart (e :: entries) = entryRecord e ++ entriesPart entries := rfl
    rw [hparts, List.length_append] at hsize
    have hrecord := describes_directoryRecord (hfits e List.mem_cons_self)
      (show front.length < 0x100000000 by omega)
      (directoryPart (front ++ entryRecord e).length entries ++ rest)
    have hdrop : whole.drop front.length = entryRecord e ++ (entriesPart entries ++ after) := by
      rw [hwhole, hparts]
      simp
    have hcontent := contentOf_eq decoders (hfits e List.mem_cons_self) hrecord hdrop
    have hrest := ih (fun e' he' => hfits e' (List.mem_cons_of_mem _ he'))
      (show whole = (front ++ entryRecord e) ++ entriesPart entries ++ after by
        rw [hwhole, hparts]
        simp)
      (by rw [List.length_append]; omega)
    -- behind its record the directory goes on with the next entry
    have hnext : (directoryRecord front.length e ++
        (directoryPart (front ++ entryRecord e).length entries ++ rest)).drop
          (directoryRecordSize + (Text.Utf8.encode e.name).length + 0 + 0) =
        directoryPart (front ++ entryRecord e).length entries ++ rest := by
      rw [← length_directoryRecord front.length e]
      exact List.drop_left
    have hdirectory : directoryPart front.length (e :: entries) ++ rest = directoryRecord front.length e ++
        (directoryPart (front ++ entryRecord e).length entries ++ rest) := by
      rw [directoryPart, List.append_assoc, List.length_append]
    rw [hdirectory, List.length_cons, entriesFrom, if_pos (isSigned_directoryRecord _ _ _)]
    simp only [hrecord.nameSize, hrecord.extraSize, hrecord.commentSize, hrecord.flags,
      hasFlag_utf8Flag, name_directoryRecord, nameOf_encode, hcontent, hnext, hrest]
    rfl

/-! ### The end record -/

/-- The end record takes 22 bytes. -/
@[simp] theorem length_endPart (count size offset : Nat) : (endPart count size offset).length = 22 := by
  simp [endPart]

/-- The end record tells the number of entries. -/
theorem numberAt_endPart_count {count : Nat} (h : count < 0x10000) (size offset : Nat) :
    numberAt (endPart count size offset) 10 2 = count := by
  have hcount : count < Nat.pow 0x100 2 := h
  simp [endPart, numberAt_append_right, numberAt_append_self hcount]

/-- The end record tells where the directory begins. -/
theorem numberAt_endPart_offset {offset : Nat} (h : offset < 0x100000000) (count size : Nat) :
    numberAt (endPart count size offset) 16 4 = offset := by
  have hoffset : offset < Nat.pow 0x100 4 := h
  simp [endPart, numberAt_append_right, numberAt_append_self hoffset]

/-- The search for the end record meets one that ends the bytes at once. -/
theorem endRecord?_append (front : Bytes) (count size offset : Nat) :
    endRecord? (front ++ endPart count size offset) = some (endPart count size offset) := by
  have hsigned : isSigned endSignature
      ((front ++ endPart count size offset).drop front.length) = true := by
    rw [List.drop_left]
    simp only [endPart, List.append_assoc]
    exact isSigned_append _ _
  have hoffsets : (List.range ((front ++ endPart count size offset).length + 1 - endRecordSize)).reverse =
      front.length :: (List.range front.length).reverse := by
    have hlength : (front ++ endPart count size offset).length + 1 - endRecordSize = front.length + 1 := by
      rw [List.length_append, length_endPart, endRecordSize]
      omega
    rw [hlength, List.range_succ, List.reverse_append]
    rfl
  rw [endRecord?, hoffsets, List.find?_cons_of_pos (by exact hsigned), Option.map_some, List.drop_left]

/-- An end record is among the last bytes. -/
theorem lastBytes_append (front : Bytes) (count size offset : Nat) :
    ∃ front', lastBytes (front ++ endPart count size offset) = front' ++ endPart count size offset := by
  have hle : (front ++ endPart count size offset).length - (endRecordSize + commentLimit) ≤
      front.length := by
    rw [List.length_append, length_endPart, endRecordSize]
    omega
  exact ⟨_, List.drop_append_of_le_length hle⟩

/-! ### Archives -/

/-- The sizes and offsets of entries fit into the records of an archive. -/
@[mk_iff]
structure Storable (entries : List StoredEntry) : Prop where
  fits : ∀ e ∈ entries, Fits e
  count : entries.length < 0x10000
  size : (entriesPart entries).length < 0x100000000

instance (entries : List StoredEntry) : Decidable (Storable entries) :=
  decidable_of_iff _ (storable_iff entries).symm

/-- Entries that were stored are read again. -/
theorem ofBytes?_bytesOf (decoders : Decoders) (h : Storable entries) :
    ofBytes? decoders (bytesOf entries) =
      some (ofEntries (entries.map (StoredEntry.opened decoders))) := by
  -- the end record tells the offset of the directory, which begins behind all entries
  obtain ⟨front', hlast⟩ := lastBytes_append (entriesPart entries ++ directoryPart 0 entries)
    entries.length (directoryPart 0 entries).length (entriesPart entries).length
  have hdirectory : (bytesOf entries).drop (entriesPart entries).length =
      directoryPart ([] : Bytes).length entries ++ endPart entries.length
        (directoryPart 0 entries).length (entriesPart entries).length := by
    rw [bytesOf, List.append_assoc, List.drop_left]
    rfl
  have hentries := entriesFrom_directoryPart decoders h.fits
    (show bytesOf entries = [] ++ entriesPart entries ++ (directoryPart 0 entries ++ endPart
      entries.length (directoryPart 0 entries).length (entriesPart entries).length) by simp [bytesOf])
    (by simpa using h.size) (endPart entries.length (directoryPart 0 entries).length
      (entriesPart entries).length)
  rw [ofBytes?, bytesOf, hlast, endRecord?_append, Option.bind_some, numberAt_endPart_count h.count,
    numberAt_endPart_offset h.size, ← bytesOf, hdirectory, hentries]
  rfl

/-- An entry with a new name comes after the others. -/
theorem put_of_notMem {entry : ArchiveEntry} {archive : Archive}
    (h : entry.name ∉ archive.map (·.name)) : archive.put entry = archive ++ [entry] := by
  induction archive with
  | nil => rfl
  | cons e archive ih =>
    rw [List.map_cons, List.mem_cons, not_or] at h
    rw [put, if_neg (Ne.symm h.1), ih h.2, List.cons_append]

/-- Entries with different names all stay where they were written. -/
theorem ofEntries_of_nodup {entries : List ArchiveEntry} (h : (entries.map (·.name)).Nodup) :
    ofEntries entries = entries := by
  have hfold (archive : Archive) (hnames : ((archive ++ entries).map (·.name)).Nodup) :
      entries.foldl (fun a e => a.put e) archive = archive ++ entries := by
    clear h
    induction entries generalizing archive with
    | nil => simp
    | cons e entries ih =>
      have hnew : e.name ∉ archive.map (·.name) := by
        rw [List.map_append, List.nodup_append] at hnames
        exact fun hmem => hnames.2.2 _ hmem _ List.mem_cons_self rfl
      rw [List.foldl_cons, put_of_notMem hnew, ih _ (by simpa using hnames), List.append_assoc]
      rfl
  exact hfold [] h

/-- Every archive begins with the mark. -/
theorem mark_prefix_bytesOf (entries : List StoredEntry) : mark <+: bytesOf entries := by
  cases entries with
  | nil => exact ⟨_, rfl⟩
  | cons e entries =>
    have hsignature : mark <+: entrySignature := ⟨[3, 4], rfl⟩
    have hrecord : entrySignature <+: entryRecord e := by
      rw [entryRecord, List.append_assoc, List.append_assoc]
      exact List.prefix_append _ _
    have hpart : entryRecord e <+: entriesPart (e :: entries) := List.prefix_append _ _
    have hwhole : entriesPart (e :: entries) <+: bytesOf (e :: entries) := by
      rw [bytesOf, List.append_assoc]
      exact List.prefix_append _ _
    exact ((hsignature.trans hrecord).trans hpart).trans hwhole

end Archive

end ServletRoutes
