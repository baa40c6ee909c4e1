import ServletRoutes.Text.Basic

/-!
# `ServletRoutes.Text.NameSet`: sets of names in code-point order

Candidates, subtypes and excluded types are sets of names that are listed in order. A set is a
strictly ascending list, so equal sets are equal values and listing one needs no sorting.
`mem_insert` and `mem_ofList` say what the operations hold.
-/

set_option autoImplicit false

namespace ServletRoutes

/-- Each name comes before all that follow it. -/
def Ascending (names : List Text) : Prop := names.Pairwise (· < ·)

/-- A set of names, listed in strictly ascending code-point order. -/
@[ext]
structure NameSet where
  /-- The members in order. -/
  toList : List Text
  ascending : Ascending toList

namespace NameSet

instance : DecidableEq NameSet := fun s t =>
  decidable_of_iff (s.toList = t.toList) NameSet.ext_iff.symm

instance : Membership Text NameSet := ⟨fun s n => n ∈ s.toList⟩

instance (n : Text) (s : NameSet) : Decidable (n ∈ s) :=
  inferInstanceAs (Decidable (n ∈ s.toList))

/-- The set without members. -/
def empty : NameSet := ⟨[], .nil⟩

/-- Puts a name at its place, once. -/
def place (n : Text) : List Text → List Text
  | [] => [n]
  | m :: ms => if n = m then m :: ms else if n < m then n :: m :: ms else m :: place n ms

/-- Placing a name adds it and loses none. -/
theorem mem_place {n x : Text} {ms : List Text} : x ∈ place n ms ↔ x = n ∨ x ∈ ms := by
  induction ms with
  | nil => simp [place]
  | cons m ms ih =>
    simp only [place]
    split
    · subst_vars; simp
    · split
      · simp
      · simp only [List.mem_cons, ih]; exact or_left_comm

/-- The place of a name is where the order wants it. -/
theorem place_ascending {n : Text} {ms : List Text} (h : Ascending ms) : Ascending (place n ms) := by
  induction ms with
  | nil => simp [place, Ascending]
  | cons m ms ih =>
    obtain ⟨hm, hms⟩ := List.pairwise_cons.1 h
    simp only [place]
    split
    · exact h
    next hne =>
      split
      next hlt =>
        refine List.pairwise_cons.2 ⟨fun x hx => ?_, h⟩
        rcases List.mem_cons.1 hx with rfl | hx
        · exact hlt
        · exact List.lt_trans hlt (hm x hx)
      next hlt =>
        refine List.pairwise_cons.2 ⟨fun x hx => ?_, ih hms⟩
        rcases mem_place.1 hx with rfl | hx
        · exact Decidable.by_contra fun hgt => hne (Std.Trichotomous.trichotomous _ _ hlt hgt)
        · exact hm x hx

/-- The set with one more name. -/
def insert (s : NameSet) (n : Text) : NameSet := ⟨place n s.toList, place_ascending s.ascending⟩

/-- The set with all names of a list. The last name is put in first, so that each name of a list in
order finds its place at once. -/
def insertAll (s : NameSet) (names : List Text) : NameSet := names.foldr (fun n s => s.insert n) s

/-- The set of the names in a list. -/
def ofList (names : List Text) : NameSet := empty.insertAll names

/-- The members of both sets together. -/
def union (s t : NameSet) : NameSet := s.insertAll t.toList

/-- The members that pass a test. -/
def filter (s : NameSet) (keep : Text → Bool) : NameSet :=
  ⟨s.toList.filter keep, s.ascending.filter _⟩

/-- The number of members. -/
def size (s : NameSet) : Nat := s.toList.length

/-- Being a member is standing in the list. -/
theorem mem_def {s : NameSet} {x : Text} : x ∈ s ↔ x ∈ s.toList := Iff.rfl

/-- Inserting a name adds it alone. -/
@[simp] theorem mem_insert {s : NameSet} {n x : Text} : x ∈ s.insert n ↔ x = n ∨ x ∈ s := mem_place

/-- The empty set has no members. -/
@[simp] theorem not_mem_empty {x : Text} : ¬ x ∈ empty := List.not_mem_nil

/-- A filter keeps the members that pass the test. -/
@[simp] theorem mem_filter {s : NameSet} {keep : Text → Bool} {x : Text} :
    x ∈ s.filter keep ↔ x ∈ s ∧ keep x = true := List.mem_filter

/-- Inserting a list adds its names. -/
@[simp] theorem mem_insertAll {s : NameSet} {names : List Text} {x : Text} :
    x ∈ s.insertAll names ↔ x ∈ names ∨ x ∈ s := by
  induction names with
  | nil => simp [insertAll]
  | cons n names ih =>
    rw [insertAll, List.foldr_cons, mem_insert, List.mem_cons, or_assoc]
    exact or_congr_right ih

/-- A union has the members of both sets. -/
@[simp] theorem mem_union {s t : NameSet} {x : Text} : x ∈ s.union t ↔ x ∈ s ∨ x ∈ t :=
  mem_insertAll.trans or_comm

/-- The set of a list has its names as members. -/
@[simp] theorem mem_ofList {names : List Text} {x : Text} : x ∈ ofList names ↔ x ∈ names := by
  simp [ofList]

end NameSet

end ServletRoutes
