import Mathlib.Data.List.Nodup
import Mathlib.Data.List.Perm.Basic
import Mathlib.Data.Set.Card
import ServletRoutes.Annotations.Store

/-!
# `ServletRoutes.Proofs.Annotations.Store`: stores with the same tokens

A store is known by the tokens of every key (`perm_entries_iff`), and its size
is the number of keys that have some (`size_eq_encard`). Two stores are
`Permuted` when every key has the same tokens in any order; they have the same
keys, and so the same size (`Permuted.size_eq`).

No key is present without tokens. A merge keeps this although it extends the
keys of the second store without a look at their tokens (`entries_merge`),
because no key of the second store is without tokens either.
-/

set_option autoImplicit false

namespace ServletRoutes.Annotations.Store

variable {s s' : Store} {key : Key}

/-- The keys of a store are those with tokens. -/
theorem mem_keys_iff : key ∈ s.entries.map (·.1) ↔ s.values key ≠ [] := by
  rw [values]
  cases hfind : s.entries.find? fun e => e.1 = key with
  | none =>
    refine iff_of_false (fun hmem => ?_) (by simp)
    obtain ⟨e, he, rfl⟩ := List.mem_map.mp hmem
    exact List.find?_eq_none.mp hfind e he (decide_eq_true rfl)
  | some e =>
    have hmem : e ∈ s.entries := List.mem_of_find?_eq_some hfind
    have hkey : e.1 = key := by simpa using List.find?_some hfind
    exact iff_of_true (List.mem_map.mpr ⟨e, hmem, hkey⟩) (s.wellFormed.nonempty e hmem)

/-- A key stands once, so its values are the tokens that stand with it. -/
theorem values_of_mem {tokens : List Text} (h : (key, tokens) ∈ s.entries) :
    s.values key = tokens := by
  rw [values]
  cases hfind : s.entries.find? fun e => e.1 = key with
  | none => exact absurd (decide_eq_true rfl) (List.find?_eq_none.mp hfind _ h)
  | some e =>
    have hkey : e.1 = key := by simpa using List.find?_some hfind
    obtain rfl : e = (key, tokens) :=
      List.inj_on_of_nodup_map s.wellFormed.distinct (List.mem_of_find?_eq_some hfind) h hkey
    rfl

/-- The entries of a store are its keys with their tokens. -/
theorem mem_entries_iff {tokens : List Text} :
    (key, tokens) ∈ s.entries ↔ tokens ≠ [] ∧ s.values key = tokens := by
  constructor
  · intro hmem
    exact ⟨s.wellFormed.nonempty _ hmem, values_of_mem hmem⟩
  · rintro ⟨hne, rfl⟩
    obtain ⟨⟨_, tokens⟩, hmem, rfl⟩ := List.mem_map.mp (mem_keys_iff.mpr hne)
    rwa [values_of_mem hmem]

/-- Stores have the same entries exactly when every key has the same tokens. -/
theorem perm_entries_iff : s.entries.Perm s'.entries ↔ ∀ key, s.values key = s'.values key := by
  have hnodup (s : Store) : s.entries.Nodup := s.wellFormed.distinct.of_map
  rw [List.perm_ext_iff_of_nodup (hnodup s) (hnodup s')]
  constructor
  · intro hsame key
    by_cases hkey : s.values key = []
    · -- a key without tokens is in neither store
      by_contra hne
      have hmem : (key, s'.values key) ∈ s.entries :=
        (hsame _).mpr (mem_entries_iff.mpr ⟨fun h => hne (hkey.trans h.symm), rfl⟩)
      exact hne (values_of_mem hmem)
    · exact (values_of_mem ((hsame _).mp (mem_entries_iff.mpr ⟨hkey, rfl⟩))).symm
  · rintro hsame ⟨key, tokens⟩
    rw [mem_entries_iff, mem_entries_iff, hsame]

/-- The size of a store is the number of keys that have tokens. -/
theorem size_eq_encard : {key | s.values key ≠ []}.encard = s.size := by
  have hkeys : {key | s.values key ≠ []} = ((s.entries.map (·.1)).toFinset : Set Key) := by
    ext key
    rw [Set.mem_ofPred_eq, ← mem_keys_iff, Finset.mem_coe, List.mem_toFinset]
  rw [hkeys, Set.encard_coe_eq_coe_finsetCard, List.toFinset_card_of_nodup s.wellFormed.distinct,
    List.length_map, size]

/-- A store is empty when no key has tokens. -/
theorem isEmpty_iff : s.isEmpty = true ↔ ∀ key, s.values key = [] := by
  rw [isEmpty, List.isEmpty_iff, ← List.perm_nil]
  show s.entries.Perm empty.entries ↔ _
  exact perm_entries_iff

/-! ### Recording and merging -/

/-- The tokens of the values that were recorded under a key, in the order of recording. -/
def tokensIn (recorded : List (Key × Value)) (key : Key) : List Text :=
  recorded.flatMap fun r => if r.1 = key then r.2.tokens else []

theorem tokensIn_append (recorded recorded' : List (Key × Value)) (key : Key) :
    tokensIn (recorded ++ recorded') key = tokensIn recorded key ++ tokensIn recorded' key :=
  List.flatMap_append

/-- Recording values one after the other adds the tokens of those that have the key. -/
theorem values_foldl_record (recorded : List (Key × Value)) (s : Store) (key : Key) :
    (recorded.foldl (fun s r => s.record r.1 r.2) s).values key =
      s.values key ++ tokensIn recorded key := by
  induction recorded generalizing s with
  | nil => simp [tokensIn]
  | cons r recorded ih =>
    rw [List.foldl_cons, ih, values_record, tokensIn, tokensIn, List.flatMap_cons, List.append_assoc]

/-- Adds tokens at the end of those of a key, which is present afterwards even when it has none. -/
def extendAt (key : Key) (tokens : List Text) : List (Key × List Text) → List (Key × List Text)
  | [] => [(key, tokens)]
  | (k, vs) :: rest =>
    if k = key then (k, vs ++ tokens) :: rest else (k, vs) :: extendAt key tokens rest

/-- Where there are tokens, extending a key needs no check. -/
theorem entries_append {tokens : List Text} (h : tokens ≠ []) :
    (s.append key tokens).entries = extendAt key tokens s.entries := by
  show appendAt key tokens s.entries = _
  induction s.entries with
  | nil => rw [appendAt, if_neg h, extendAt]
  | cons e rest ih => rw [appendAt, extendAt, ih]

/-- Extends the keys of some entries one after the other. -/
def extendAll (visited entries : List (Key × List Text)) : List (Key × List Text) :=
  visited.foldl (fun entries e => extendAt e.1 e.2 entries) entries

/-- Appending the tokens of entries that have some is extending their keys. -/
theorem entries_foldl_append {visited : List (Key × List Text)} (h : ∀ e ∈ visited, e.2 ≠ [])
    (s : Store) : (visited.foldl (fun s e => s.append e.1 e.2) s).entries =
      extendAll visited s.entries := by
  induction visited generalizing s with
  | nil => rfl
  | cons e rest ih =>
    rw [List.foldl_cons, ih fun e he => h e (List.mem_cons_of_mem _ he),
      entries_append (h e List.mem_cons_self)]
    rfl

/-- Merging extends the keys of the second store one after the other, without a check. -/
theorem entries_merge (s other : Store) :
    (s.merge other).entries = extendAll other.entries s.entries :=
  entries_foldl_append other.wellFormed.nonempty s

/-- A store with its entries in another order. -/
def listed (s : Store) {entries : List (Key × List Text)} (h : entries.Perm s.entries) : Store :=
  ⟨entries, (h.map _).nodup_iff.mpr s.wellFormed.distinct,
    fun e he => s.wellFormed.nonempty e (h.mem_iff.mp he)⟩

/-- A store merged into another one: the entries of the second are visited in some order, and the key
of each is extended without a check. -/
def Merges (s other merged : Store) : Prop :=
  ∃ visited : List (Key × List Text), visited.Perm other.entries ∧
    merged.entries = extendAll visited s.entries

/-- The entries can be visited in any order: no key without tokens arises. -/
theorem exists_entries_eq (s other : Store) {visited : List (Key × List Text)}
    (h : visited.Perm other.entries) : ∃ merged : Store, merged.entries = extendAll visited s.entries :=
  ⟨s.merge (other.listed h), entries_merge s (other.listed h)⟩

/-- `merge` visits the entries in the order in which they stand. -/
theorem merges_merge (s other : Store) : s.Merges other (s.merge other) :=
  ⟨other.entries, .rfl, entries_merge s other⟩

/-- In whatever order the entries are visited, the tokens of the second store come after those of the
first, for every key. -/
theorem Merges.values_eq {s other merged : Store} (h : s.Merges other merged) (key : Key) :
    merged.values key = s.values key ++ other.values key := by
  obtain ⟨visited, hperm, hentries⟩ := h
  have hmerged : merged.entries = (s.merge (other.listed hperm)).entries := by
    rw [hentries, entries_merge]
    rfl
  have hlisted : (other.listed hperm).values key = other.values key :=
    perm_entries_iff.mp hperm key
  rw [perm_entries_iff.mp (.of_eq hmerged), values_merge, hlisted]

/-! ### Counting tokens -/

/-- The number of tokens of all keys. -/
def tokenCount (s : Store) : Nat := total (fun e => e.2.length) s.entries

/-- Appending adds as many tokens as there are. -/
theorem tokenCount_append (s : Store) (key : Key) (tokens : List Text) :
    (s.append key tokens).tokenCount = s.tokenCount + tokens.length := by
  show total _ (appendAt key tokens s.entries) = total _ s.entries + tokens.length
  induction s.entries with
  | nil =>
    simp only [appendAt]
    split <;> simp_all
  | cons e rest ih =>
    obtain ⟨k, vs⟩ := e
    simp only [appendAt]
    split
    · simp only [total_cons, List.length_append]
      omega
    · simp only [total_cons, ih]
      omega

/-- Recording values one after the other adds the tokens of all of them. -/
theorem tokenCount_foldl_record (recorded : List (Key × Value)) (s : Store) :
    (recorded.foldl (fun s r => s.record r.1 r.2) s).tokenCount =
      s.tokenCount + total (fun r => r.2.tokens.length) recorded := by
  induction recorded generalizing s with
  | nil => rfl
  | cons r recorded ih =>
    rw [List.foldl_cons, ih, record, tokenCount_append, total_cons, Nat.add_assoc]

/-! ### The same tokens in another order -/

/-- Two stores have for every key the same tokens, in any order. -/
def Permuted (s s' : Store) : Prop := ∀ key, (s.values key).Perm (s'.values key)

/-- Stores with the same tokens have equally many keys. -/
theorem Permuted.size_eq (h : s.Permuted s') : s.size = s'.size := by
  have hkeys : ∀ key, key ∈ s.entries.map (·.1) ↔ key ∈ s'.entries.map (·.1) := by
    intro key
    rw [mem_keys_iff, mem_keys_iff, ne_eq, ne_eq, ← List.length_eq_zero_iff, (h key).length_eq,
      List.length_eq_zero_iff]
  have hperm := (List.perm_ext_iff_of_nodup s.wellFormed.distinct s'.wellFormed.distinct).mpr hkeys
  simpa [size] using hperm.length_eq

end ServletRoutes.Annotations.Store
