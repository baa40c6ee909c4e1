import ServletRoutes.Annotations.Value

/-!
# `ServletRoutes.Annotations.Store`: the tokens recorded for types

The store keeps, for each type and annotation, the tokens recorded so far in the order of
recording; nothing is merged or sorted. Only keys with tokens are present. `values_append`,
`values_record` and `values_merge` say what each operation does to the tokens of every key.
-/

set_option autoImplicit false

namespace ServletRoutes.Annotations

/-- Tokens belong to an annotation on a type. -/
structure Key where
  /-- The annotated type. -/
  owner : Text
  /-- The type of the annotation. -/
  annotationType : Text
deriving DecidableEq

/-- Adds tokens at the end of those of a key. -/
def appendAt (key : Key) (tokens : List Text) : List (Key × List Text) → List (Key × List Text)
  | [] => if tokens = [] then [] else [(key, tokens)]
  | (k, vs) :: rest =>
    if k = key then (k, vs ++ tokens) :: rest else (k, vs) :: appendAt key tokens rest

/-- Each key stands once and has at least one token. -/
structure WellFormed (entries : List (Key × List Text)) : Prop where
  distinct : (entries.map (·.1)).Nodup
  nonempty : ∀ e ∈ entries, e.2 ≠ []

/-- Appending adds no key but the one appended at. -/
theorem mem_keys_appendAt {key k : Key} {tokens : List Text} {entries : List (Key × List Text)}
    (h : k ∈ (appendAt key tokens entries).map (·.1)) : k = key ∨ k ∈ entries.map (·.1) := by
  induction entries with
  | nil =>
    simp only [appendAt] at h
    split at h <;> simp_all
  | cons e rest ih =>
    obtain ⟨k', vs⟩ := e
    simp only [appendAt] at h
    split at h
    · exact .inr h
    · simp only [List.map_cons, List.mem_cons] at h ⊢
      rcases h with h | h
      · exact .inr (.inl h)
      · exact (ih h).imp id .inr

/-- Appending keeps the keys distinct and their values non-empty. -/
theorem WellFormed.appendAt {key : Key} {tokens : List Text} {entries : List (Key × List Text)}
    (h : WellFormed entries) : WellFormed (appendAt key tokens entries) := by
  induction entries with
  | nil =>
    simp only [Annotations.appendAt]
    split
    · exact h
    · constructor <;> simp_all
  | cons e rest ih =>
    obtain ⟨k, vs⟩ := e
    have hd := h.distinct
    simp only [List.map_cons, List.nodup_cons] at hd
    have hrest : WellFormed rest := ⟨hd.2, fun e he => h.nonempty e (List.mem_cons_of_mem _ he)⟩
    simp only [Annotations.appendAt]
    split
    · refine ⟨by simpa using hd, fun e he => ?_⟩
      rcases List.mem_cons.1 he with rfl | he
      · have := h.nonempty (k, vs) (by simp)
        simp_all
      · exact hrest.nonempty e he
    next hne =>
      refine ⟨?_, fun e he => ?_⟩
      · simp only [List.map_cons, List.nodup_cons]
        refine ⟨fun hk => ?_, (ih hrest).distinct⟩
        rcases mem_keys_appendAt hk with hk | hk
        · exact hne hk
        · exact hd.1 hk
      · rcases List.mem_cons.1 he with rfl | he
        · exact h.nonempty _ (by simp)
        · exact (ih hrest).nonempty e he

/-- The tokens of all keys that have any. -/
structure Store where
  entries : List (Key × List Text)
  wellFormed : WellFormed entries

namespace Store

/-- The store without tokens. -/
def empty : Store := ⟨[], by simp, by simp⟩

/-- The tokens of an annotation on a type, in the order of recording. -/
def values (s : Store) (key : Key) : List Text :=
  ((s.entries.find? fun e => e.1 = key).map (·.2)).getD []

/-- Adds tokens to a key. -/
def append (s : Store) (key : Key) (tokens : List Text) : Store :=
  ⟨appendAt key tokens s.entries, s.wellFormed.appendAt⟩

/-- Records the tokens of a value. -/
def record (s : Store) (key : Key) (value : Value) : Store := s.append key value.tokens

/-- Records the tokens of a value, and tells how many there are. The key of a value without tokens is
left alone. -/
def recordCounted (s : Store) (key : Key) (value : Value) : Store × Nat :=
  let tokens := value.tokens
  if tokens = [] then (s, 0) else (s.append key tokens, tokens.length)

/-- Adds the tokens of a second store, key by key, after those of the first. -/
def merge (s other : Store) : Store := other.entries.foldl (fun s e => s.append e.1 e.2) s

/-- The number of keys that have tokens. -/
def size (s : Store) : Nat := s.entries.length

/-- No key has tokens. -/
def isEmpty (s : Store) : Bool := s.entries.isEmpty

/-- The empty store has no values. -/
@[simp] theorem values_empty (key : Key) : empty.values key = [] := rfl

/-- Appending at one key adds to the values of that key only. -/
private theorem find?_appendAt (key k : Key) (tokens : List Text)
    (entries : List (Key × List Text)) :
    (((appendAt key tokens entries).find? fun e => e.1 = k).map (·.2)).getD [] =
      ((entries.find? fun e => e.1 = k).map (·.2)).getD [] ++ if key = k then tokens else [] := by
  induction entries with
  | nil =>
    simp only [appendAt]
    split
    · simp_all
    · by_cases hk : key = k <;> simp [hk]
  | cons e rest ih =>
    obtain ⟨k', vs⟩ := e
    simp only [appendAt]
    split
    next hk' =>
      subst hk'
      by_cases hk : k' = k <;> simp [hk]
    next hk' =>
      by_cases hk : k' = k
      · subst hk
        simp [show ¬key = k' from fun e => hk' e.symm]
      · simpa [List.find?_cons, hk] using ih

/-- Appending adds the tokens to those of the key and leaves the other keys alone. -/
theorem values_append (s : Store) (key k : Key) (tokens : List Text) :
    (s.append key tokens).values k = s.values k ++ if key = k then tokens else [] :=
  find?_appendAt key k tokens s.entries

/-- Recording adds the scalars of the value. -/
theorem values_record (s : Store) (key k : Key) (value : Value) :
    (s.record key value).values k = s.values k ++ if key = k then value.tokens else [] :=
  values_append s key k value.tokens

/-- Without tokens nothing is appended. -/
theorem append_nil (s : Store) (key : Key) : s.append key [] = s := by
  have hentries (entries : List (Key × List Text)) : appendAt key [] entries = entries := by
    induction entries with
    | nil => rfl
    | cons e rest ih =>
      obtain ⟨k, vs⟩ := e
      simp only [appendAt, ih, List.append_nil]
      split <;> rfl
  obtain ⟨entries, wellFormed⟩ := s
  simp only [append, hentries]

/-- Recording with a count records the same, and the count is that of the tokens. -/
theorem recordCounted_eq (s : Store) (key : Key) (value : Value) :
    s.recordCounted key value = (s.record key value, value.tokens.length) := by
  by_cases h : value.tokens = []
  · simp only [recordCounted, record, h, append_nil, if_true, List.length_nil]
  · simp only [recordCounted, record, h, if_false]

/-- Appending all entries of a store adds the values of each key once. -/
private theorem values_foldl (entries : List (Key × List Text)) (s : Store) (k : Key)
    (h : (entries.map (·.1)).Nodup) :
    (entries.foldl (fun s e => s.append e.1 e.2) s).values k =
      s.values k ++ ((entries.find? fun e => e.1 = k).map (·.2)).getD [] := by
  induction entries generalizing s with
  | nil => simp
  | cons e rest ih =>
    simp only [List.map_cons, List.nodup_cons] at h
    rw [List.foldl_cons, ih _ h.2, values_append]
    by_cases hk : e.1 = k
    · have : rest.find? (fun e => e.1 = k) = none := by
        simp only [List.find?_eq_none, decide_eq_true_eq]
        intro e' he' hk'
        exact h.1 (List.mem_map.2 ⟨e', he', by rw [hk', hk]⟩)
      simp [hk, this]
    · simp [hk]

/-- Merging puts the tokens of the second store after those of the first, for every key. -/
theorem values_merge (s other : Store) (k : Key) :
    (s.merge other).values k = s.values k ++ other.values k :=
  values_foldl other.entries s k other.wellFormed.distinct

end Store

end ServletRoutes.Annotations
