import ServletRoutes.Proofs.ClassFile.Assembly

/-!
# `ServletRoutes.Proofs.ClassFile.Truncation`: class files that end too early

A reader that is given only the front part of some bytes does what it does on
all of them for as long as the front part lasts, and then finds that the
bytes end. `Shortens` says this of two readers, because the number of bytes
left is the fuel of nested elements, and the front part has less of it. The
property goes from the parts of a reader to the whole (`Shortens.bind`), up to
class files (`shortens_read`).

A class file that was laid out is read to its last byte, so no proper front
part of it is a class file (`ClassDescription.parse_of_prefix`).
-/

set_option autoImplicit false

namespace ServletRoutes.ClassFile

variable {α β : Type}

/-! ### Readers of a front part -/

/-- Where the first reader gives a value for some bytes, the second one gives the same value for a front
part of them, and leaves the front part of what is left; or it finds that the bytes end. -/
def Shortens (reader early : Reader α) : Prop :=
  ∀ bytes more a rest, reader (bytes ++ more) = .ok (a, rest) →
    (∃ left, early bytes = .ok (a, left) ∧ rest = left ++ more) ∨ early bytes = .error .endOfInput

namespace Shortens

variable {reader early : Reader α} {next earlyNext : α → Reader β}

/-- A value is given without reading, so nothing can be missing. -/
theorem pure (a : α) : Shortens (Pure.pure a) (Pure.pure a) := by
  intro bytes more b rest h
  obtain ⟨rfl, rfl⟩ := Prod.mk.inj (Except.ok.inj h)
  exact .inl ⟨bytes, rfl, rfl⟩

/-- A reader that fails has no value to compare. -/
theorem fail (fault : Fault) (early : Reader α) : Shortens (Reader.fail fault) early :=
  fun _ _ _ _ h => absurd h (by simp [Reader.fail])

/-- What would come after a failure does not matter. -/
theorem fail_bind (fault : Fault) (next : α → Reader β) (early : Reader β) :
    Shortens (Reader.fail fault >>= next) early :=
  fun _ _ _ _ h => absurd h (by simp [Bind.bind, StateT.bind, Except.bind, Reader.fail])

/-- A reader that finds the end has nothing to compare. -/
theorem endOfInput (reader : Reader α) : Shortens reader (Reader.fail .endOfInput) :=
  fun _ _ _ _ _ => .inr rfl

/-- Readers one after the other: the bytes end within the first one or within what follows. -/
theorem bind (h : Shortens reader early) (hnext : ∀ a, Shortens (next a) (earlyNext a)) :
    Shortens (reader >>= next) (early >>= earlyNext) := by
  intro bytes more b rest hread
  change (reader (bytes ++ more) >>= fun p => next p.1 p.2) = .ok (b, rest) at hread
  show (∃ left, (early bytes >>= fun p => earlyNext p.1 p.2) = .ok (b, left) ∧ _) ∨
    (early bytes >>= fun p => earlyNext p.1 p.2) = .error .endOfInput
  cases hfirst : reader (bytes ++ more) with
  | error fault =>
    rw [hfirst] at hread
    exact absurd hread (by simp [Bind.bind, Except.bind])
  | ok first =>
    obtain ⟨a, mid⟩ := first
    rw [hfirst] at hread
    rcases h bytes more a mid hfirst with ⟨left, hleft, rfl⟩ | hend
    · rw [hleft]
      exact hnext a left more b rest hread
    · rw [hend]
      exact .inr rfl

/-- A last step that reads nothing. -/
theorem map (h : Shortens reader early) (f : α → β) :
    Shortens (reader >>= fun a => Pure.pure (f a)) (early >>= fun a => Pure.pure (f a)) :=
  h.bind fun a => .pure (f a)

/-- An outcome that is given does not read. -/
theorem lift (outcome : Except Fault α) : Shortens (Reader.lift outcome) (Reader.lift outcome) := by
  cases outcome with
  | ok a => exact .pure a
  | error fault => exact .fail fault _

/-- Where the fuel is the number of bytes left, a front part has less of it. -/
theorem remaining {next : Nat → Reader β} (h : ∀ n m, Shortens (next n) (next m)) :
    Shortens (Reader.remaining >>= next) (Reader.remaining >>= next) := by
  intro bytes more b rest hread
  exact h (bytes ++ more).length bytes.length bytes more b rest hread

/-- A reader any number of times: the bytes end within one of the times. -/
theorem times (h : Shortens reader early) (n : Nat) :
    Shortens (Reader.times n reader) (Reader.times n early) := by
  induction n with
  | zero => exact .pure []
  | succ n ih => exact h.bind fun a => ih.map (a :: ·)

end Shortens

/-! ### Numbers -/

/-- A byte is read the same from a front part, unless the front part is empty. -/
theorem shortens_u8 : Shortens Reader.u8 Reader.u8 := by
  intro bytes more n rest h
  cases bytes with
  | nil => exact .inr rfl
  | cons b bytes =>
    obtain ⟨rfl, rfl⟩ := Prod.mk.inj (Except.ok.inj h)
    exact .inl ⟨bytes, rfl, rfl⟩

/-- Two bytes are read the same from a front part, unless the front part ends in them. -/
theorem shortens_u16 : Shortens Reader.u16 Reader.u16 :=
  shortens_u8.bind fun _ => shortens_u8.map _

/-- Four bytes are read the same from a front part, unless the front part ends in them. -/
theorem shortens_u32 : Shortens Reader.u32 Reader.u32 :=
  shortens_u16.bind fun _ => shortens_u16.map _

/-- A number of bytes is read the same from a front part, unless the front part ends in them. -/
theorem shortens_take (n : Nat) : Shortens (Reader.take n) (Reader.take n) := by
  intro bytes more taken rest h
  by_cases hshort : bytes.length < n
  · exact .inr (if_pos hshort)
  · rw [Reader.take, List.length_append, if_neg (by omega)] at h
    obtain ⟨rfl, rfl⟩ := Prod.mk.inj (Except.ok.inj h)
    have hle : n ≤ bytes.length := Nat.le_of_not_lt hshort
    refine .inl ⟨bytes.drop n, ?_, List.drop_append_of_le_length hle⟩
    rw [Reader.take, if_neg hshort, List.take_append_of_le_length hle]

/-- Bytes are left out in the same way from a front part, unless the front part ends in them. -/
theorem shortens_skip (n : Nat) : Shortens (Reader.skip n) (Reader.skip n) :=
  (shortens_take n).map _

/-- Items behind their number are read the same from a front part, unless the front part ends in
them. -/
theorem shortens_counted {counter : Reader Nat} {item early : Reader α}
    (hcounter : Shortens counter counter) (h : Shortens item early) :
    Shortens (Attribute.counted counter item) (Attribute.counted counter early) :=
  hcounter.bind h.times

/-! ### Constants -/

namespace ConstantPool

/-- A text behind its length is read the same from a front part, unless the front part ends in
it. -/
theorem shortens_text : Shortens text text := by
  refine shortens_u16.bind fun length => (shortens_take length).bind fun bytes => ?_
  split
  · exact .pure _
  · exact .fail _ _

/-- A constant that is not looked into is read the same from a front part, unless the front part
ends in it. -/
theorem shortens_ofSize (n : Nat) : Shortens (ofSize n) (ofSize n) := (shortens_skip n).map _

/-- A constant behind its tag is read the same from a front part, unless the front part ends in
it. -/
theorem shortens_constantOf (tag : Nat) : Shortens (constantOf tag) (constantOf tag) := by
  unfold constantOf
  split
  case h_1 => exact shortens_text
  case h_2 => exact shortens_u32.map _
  case h_6 => exact shortens_u16.map _
  case h_17 =>
    refine shortens_u8.bind fun kind => ?_
    split
    · exact shortens_ofSize 2
    · exact .fail _ _
  case h_18 => exact .fail _ _
  -- all other constants only take space
  all_goals exact shortens_ofSize _

/-- A constant is read the same from a front part, unless the front part ends in it. -/
theorem shortens_entry : Shortens entry entry :=
  shortens_u8.bind fun tag => (shortens_constantOf tag).map _

/-- The constants up to the last slot are read the same from a front part, unless the front part
ends in them. -/
theorem shortens_slots (n : Nat) : Shortens (slots n) (slots n) := by
  induction n using slots.induct with
  | case1 => exact .pure []
  | case2 => exact shortens_entry
  | case3 n ih ih' =>
    refine shortens_entry.bind fun first => ?_
    split
    · exact ih.map _
    · exact ih'.map _

/-- The pool is read the same from a front part, unless the front part ends in it. -/
theorem shortens_read : Shortens read read := by
  refine shortens_u16.bind fun count => ?_
  cases count with
  | zero => exact .fail _ _
  | succ n => exact shortens_slots n

end ConstantPool

/-! ### Annotations -/

namespace Element

/-- The fuel plays no part where an element is read at all. -/
theorem shortens_readNested (n m : Nat) : Shortens (readNested n) (readNested m) := by
  induction n generalizing m with
  | zero => exact .fail _ _
  | succ n ih =>
    cases m with
    | zero => exact .endOfInput _
    | succ m =>
      refine shortens_u8.bind fun tag => ?_
      generalize Char.ofNat tag = letter
      split
      case h_11 => exact shortens_u16.bind fun _ => shortens_u16.map _
      case h_12 =>
        exact shortens_u16.bind fun _ => shortens_u16.bind fun count =>
          ((shortens_u16.bind fun _ => (ih m).map _).times count).map _
      case h_13 => exact shortens_u16.bind fun count => ((ih m).times count).map _
      case h_14 => exact .fail _ _
      -- all other elements are one index
      all_goals exact shortens_u16.map _

/-- An element is read the same from a front part, unless the front part ends in it. -/
theorem shortens_read : Shortens read read :=
  .remaining fun n m => shortens_readNested (n + 1) (m + 1)

end Element

/-- An annotation is read the same from a front part, unless the front part ends in it. -/
theorem Entry.shortens_read : Shortens Entry.read Entry.read :=
  shortens_u16.bind fun _ => shortens_u16.bind fun count =>
    ((shortens_u16.bind fun _ => Element.shortens_read.map _).times count).map _

/-! ### Attributes -/

namespace Attribute

/-- A value that is not kept is left out in the same way from a front part, unless the front part
ends in it. -/
theorem shortens_readOver {reader : Reader α} (h : Shortens reader reader) :
    Shortens (readOver reader) (readOver reader) := h.map _

/-- Annotations behind their number are read the same from a front part, unless the front part ends
in them. -/
theorem shortens_entries : Shortens entries entries :=
  shortens_counted shortens_u16 Entry.shortens_read

/-- A text that is not kept is left out in the same way from a front part, unless the front part
ends in it. -/
theorem shortens_textOver (length : Nat) : Shortens (textOver length) (textOver length) := by
  refine (shortens_take length).bind fun bytes => ?_
  split
  · exact .pure _
  · exact .fail _ _

/-- The counters of tables take one byte or two. -/
theorem shortens_counter {table : String × Reader Nat × Nat} (h : table ∈ tables) :
    Shortens table.2.1 table.2.1 := by
  simp only [tables, List.mem_cons, List.not_mem_nil, or_false] at h
  rcases h with rfl | rfl | rfl | rfl | rfl | rfl
  case inr.inr.inr.inr.inr => exact shortens_u8
  all_goals exact shortens_u16

/-- The content of an attribute is read the same from a front part, unless the front part ends in
it. -/
theorem shortens_content (name : Text) (length : Nat) :
    Shortens (content name length) (content name length) := by
  -- the cases are the names of attributes, in the order in which they are told apart
  unfold content
  split
  · exact shortens_entries
  split
  · exact shortens_readOver shortens_entries
  split
  · exact shortens_readOver (shortens_counted shortens_u8 shortens_entries)
  split
  · exact shortens_readOver Element.shortens_read
  split
  · exact shortens_readOver (shortens_counted shortens_u16
      ((shortens_skip 2).bind fun _ => shortens_counted shortens_u16 (shortens_skip 2)))
  split
  · exact shortens_textOver length
  split
  · split
    · exact shortens_readOver (shortens_skip length)
    · exact .fail _ _
  · split
    next htable =>
      exact shortens_readOver
        (shortens_counted (shortens_counter (List.mem_of_find?_eq_some htable)) (shortens_skip _))
    next => exact shortens_readOver (shortens_skip length)

/-- The fuel plays no part where an attribute is read at all. -/
theorem shortens_readNested (pool : ConstantPool) (n m : Nat) :
    Shortens (readNested pool n) (readNested pool m) := by
  induction n generalizing m with
  | zero => exact .fail _ _
  | succ n ih =>
    cases m with
    | zero => exact .endOfInput _
    | succ m =>
      refine shortens_u16.bind fun nameIndex => ?_
      cases pool.utf8 nameIndex with
      | error fault => exact .fail _ _
      | ok name =>
        refine shortens_u32.bind fun length => ?_
        by_cases hrecord : name = "Record".toList
        · rw [if_pos hrecord, if_pos hrecord]
          have hcomponent := (shortens_skip 4).bind fun _ => shortens_counted shortens_u16 (ih m)
          exact (shortens_counted shortens_u16 hcomponent).map _
        · rw [if_neg hrecord, if_neg hrecord]
          exact shortens_content name length

/-- The attributes of a class are read the same from a front part, unless the front part ends in
them. -/
theorem shortens_readAll (pool : ConstantPool) : Shortens (readAll pool) (readAll pool) :=
  .remaining fun n m =>
    (shortens_counted shortens_u16 (shortens_readNested pool (n + 1) (m + 1))).map _

end Attribute

/-! ### Files -/

/-- A field is read the same from a front part, unless the front part ends in it. -/
theorem shortens_field (pool : ConstantPool) : Shortens (field pool) (field pool) :=
  (shortens_skip 4).bind fun _ => shortens_u16.bind fun _ =>
    (Shortens.lift _).bind fun _ => (Attribute.shortens_readAll pool).map _

/-- A method is read the same from a front part, unless the front part ends in it. -/
theorem shortens_method (pool : ConstantPool) : Shortens (method pool) (method pool) :=
  (shortens_skip 6).bind fun _ => (Attribute.shortens_readAll pool).map _

/-- A front part of a class file is read like the whole for as long as it lasts. -/
theorem shortens_read : Shortens read read := by
  refine shortens_u32.bind fun found => ?_
  split
  · exact .fail_bind _ _ _
  refine shortens_u16.bind fun minor => shortens_u16.bind fun major => ?_
  split
  · exact .fail_bind _ _ _
  refine ConstantPool.shortens_read.bind fun pool => ?_
  -- the access flags, the class and its supertypes
  refine (shortens_skip 2).bind fun _ => shortens_u16.bind fun thisClass => ?_
  refine shortens_u16.bind fun superClass => ?_
  refine (shortens_counted shortens_u16 shortens_u16).bind fun interfaces => ?_
  -- fields, methods and attributes
  refine (shortens_counted shortens_u16 (shortens_field pool)).bind fun _ => ?_
  refine (shortens_counted shortens_u16 (shortens_method pool)).bind fun _ => ?_
  exact (Attribute.shortens_readAll pool).map _

/-- Bytes that are read to their end have no proper front part that can be read. -/
theorem read_of_prefix {bytes cut : Bytes} {c : ClassFile} (hread : Reads read bytes c)
    (hcut : cut <+: bytes) (hne : cut ≠ bytes) : read cut = .error .endOfInput := by
  obtain ⟨more, rfl⟩ := hcut
  have hwhole := hread []
  rw [List.append_nil] at hwhole
  rcases shortens_read cut more c [] hwhole with ⟨left, -, hleft⟩ | hend
  · have hnone : more = [] := (List.append_eq_nil_iff.mp hleft.symm).2
    exact absurd (by rw [hnone, List.append_nil]) hne
  · exact hend

/-- The class file of a description is read to its end. -/
theorem ClassDescription.exists_reads_bytes {d : ClassDescription} (h : d.isWellFormed = true) :
    ∃ c, Reads read d.bytes c := by
  obtain ⟨final, hfinal⟩ := exists_finalPool h
  have hfits := ((builds_body h).result [] final (hfinal ▸ List.prefix_refl _)).1
  rw [bytes, ← hfinal]
  exact ⟨_, Body.reads_file final.reads final.length_lt hfits⟩

/-- A proper front part of a class file that was laid out is no class file, as its bytes end. -/
theorem ClassDescription.parse_of_prefix {d : ClassDescription} {cut : Bytes}
    (h : d.isWellFormed = true) (hcut : cut <+: d.bytes) (hne : cut ≠ d.bytes) :
    parse cut = .error .endOfInput := by
  obtain ⟨c, hread⟩ := exists_reads_bytes h
  rw [parse, read_of_prefix hread hcut hne]

end ServletRoutes.ClassFile
