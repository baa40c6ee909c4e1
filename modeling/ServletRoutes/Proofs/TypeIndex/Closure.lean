import Mathlib.Logic.Relation
import ServletRoutes.Proofs.Text.NameSet
import ServletRoutes.TypeIndex

/-!
# `ServletRoutes.Proofs.TypeIndex.Closure`: the declared subtypes

One type is below another when a chain of declarations leads from the one to
the other. `TypeIndex.mem_subtypesOf_iff` says that the rounds of an index
find exactly the types below a base and leave the base out, even where it is
below itself. `TypeIndex.mem_closure_ofDeclarations_iff` is where the number
of rounds does not cut the search short: by then a round has found nothing.

A set of types with all that is directly below them is closed under chains
(`exists_chain_iff_of_closed`), so a search is right when it starts at the
base, only follows links and ends with a closed set.
-/

set_option autoImplicit false

namespace ServletRoutes

/-- One type is declared directly below another: a declaration of the first lists the second. -/
def DeclaredBelow (declarations : List TypeDeclaration) (sub sup : Text) : Prop :=
  ∃ d ∈ declarations, d.name = sub ∧ sup ∈ d.supertypes

/-- Chains that end in a closed set begin in it. -/
theorem exists_chain_iff_of_closed {α : Type} {below : α → α → Prop} {p : α → Prop}
    (hclosed : ∀ x y, below x y → p y → p x) (x : α) :
    (∃ y, p y ∧ Relation.ReflTransGen below x y) ↔ p x := by
  constructor
  · rintro ⟨y, hy, hchain⟩
    induction hchain using Relation.ReflTransGen.head_induction_on with
    | refl => exact hy
    | head hstep _ ih => exact hclosed _ _ hstep ih
  · intro hx
    exact ⟨x, hx, .refl⟩

namespace TypeIndex

variable {links : List (Text × Text)} {found given last names : NameSet} {x y : Text}

/-- A link leads from one name to another. -/
def Linked (links : List (Text × Text)) (sub sup : Text) : Prop := (sub, sup) ∈ links

/-- The links of an index are the declared ones. -/
theorem linked_ofDeclarations (declarations : List TypeDeclaration) :
    Linked (ofDeclarations declarations).links = DeclaredBelow declarations := by
  funext sub sup
  simp [Linked, ofDeclarations, DeclaredBelow, and_comm]

/-- The names of an index are those that declarations mention. -/
theorem mem_names_ofDeclarations {declarations : List TypeDeclaration} :
    x ∈ (ofDeclarations declarations).names ↔
      ∃ d ∈ declarations, x = d.name ∨ x ∈ d.supertypes := by
  simp [ofDeclarations]

/-! ### Rounds -/

/-- A round finds what is linked to one of the given names and not found yet. -/
theorem mem_newBelow : x ∈ newBelow links found given ↔ x ∉ found ∧ ∃ y ∈ given, Linked links x y := by
  simp only [newBelow, NameSet.mem_ofList, List.mem_map, List.mem_filter, Bool.and_eq_true,
    decide_eq_true_eq, Prod.exists, Linked]
  constructor
  · rintro ⟨sub, sup, ⟨hlink, hsup, hsub⟩, rfl⟩
    exact ⟨hsub, sup, hsup, hlink⟩
  · rintro ⟨hx, y, hy, hlink⟩
    exact ⟨x, y, ⟨hlink, hy, hx⟩, rfl⟩

/-- The names that are not found yet. -/
def missing (names found : NameSet) : NameSet := names.filter fun n => n ∉ found

/-- Fewer names are missing after a round that finds some. -/
theorem missing_lt {new : NameSet} (hx : x ∈ names) (hnot : x ∉ found) (hnew : x ∈ new) :
    (missing names (found.union new)).size < (missing names found).size := by
  have hsub : (missing names (found.union new)).toList.Sublist (missing names found).toList := by
    refine List.monotone_filter_right _ fun n hn => ?_
    simp only [NameSet.mem_union, not_or, decide_eq_true_eq] at hn ⊢
    exact hn.1
  refine Nat.lt_of_le_of_ne hsub.length_le fun hlen => ?_
  have hmem : x ∈ missing names found := by simp [missing, hx, hnot]
  have hmem' : x ∈ missing names (found.union new) := by
    rwa [NameSet.mem_def, hsub.eq_of_length hlen, ← NameSet.mem_def]
  simp [missing, hnew] at hmem'

/-- The rounds find what a chain leads from to a type found so far. Where all that is below the types
found before the last round is found too, only the types of that round are gone on from; and a round
for each missing name is enough. -/
theorem mem_closure_iff (hnames : ∀ l ∈ links, l.1 ∈ names) (rounds : Nat)
    (hlast : ∀ x y, Linked links x y → y ∈ found → y ∈ last ∨ x ∈ found)
    (hsub : ∀ y ∈ last, y ∈ found) (hrounds : (missing names found).size ≤ rounds) :
    x ∈ closure links rounds found last ↔
      ∃ y, y ∈ found ∧ Relation.ReflTransGen (Linked links) x y := by
  induction rounds generalizing found last with
  | zero =>
    -- no name is missing, so the types found are closed
    have hclosed : ∀ x y, Linked links x y → y ∈ found → x ∈ found := by
      intro x y hlink _
      by_contra hx
      have hmissing : x ∈ missing names found := by simp [missing, hnames _ hlink, hx]
      rw [NameSet.mem_def, List.length_eq_zero_iff.mp (Nat.le_zero.mp hrounds)] at hmissing
      exact List.not_mem_nil hmissing
    rw [closure, exists_chain_iff_of_closed hclosed]
  | succ rounds ih =>
    rw [closure]
    split
    next hnone =>
      have hclosed : ∀ x y, Linked links x y → y ∈ found → x ∈ found := by
        intro x y hlink hy
        rcases hlast x y hlink hy with hy | hx
        · by_contra hx
          have hnew : x ∈ newBelow links found last := mem_newBelow.mpr ⟨hx, y, hy, hlink⟩
          rw [hnone] at hnew
          exact NameSet.not_mem_empty hnew
        · exact hx
      rw [exists_chain_iff_of_closed hclosed]
    next hsome =>
      obtain ⟨z, hz⟩ : ∃ z, z ∈ newBelow links found last := by
        by_contra hempty
        exact hsome (NameSet.ext_of_mem fun z => by simpa using fun hz => hempty ⟨z, hz⟩)
      obtain ⟨hznot, w, hw, hzw⟩ := mem_newBelow.mp hz
      have hfewer := missing_lt (hnames _ hzw) hznot hz
      rw [ih]
      · -- a chain that ends in a new type goes on to a type found before
        constructor
        · rintro ⟨y, hy, hchain⟩
          rcases NameSet.mem_union.mp hy with hy | hy
          · exact ⟨y, hy, hchain⟩
          · obtain ⟨-, u, hu, hlink⟩ := mem_newBelow.mp hy
            exact ⟨u, hsub u hu, hchain.tail hlink⟩
        · rintro ⟨y, hy, hchain⟩
          exact ⟨y, NameSet.mem_union.mpr (.inl hy), hchain⟩
      · intro x y hlink hy
        rw [NameSet.mem_union] at hy ⊢
        rcases hy with hy | hy
        · rcases hlast x y hlink hy with hy | hx
          · by_cases hx : x ∈ found
            · exact .inr (.inl hx)
            · exact .inr (.inr (mem_newBelow.mpr ⟨hx, y, hy, hlink⟩))
          · exact .inr (.inl hx)
        · exact .inl hy
      · intro y hy
        exact NameSet.mem_union.mpr (.inr hy)
      · omega

/-! ### The subtypes of a base -/

variable (declarations : List TypeDeclaration) (base : Text)

/-- As many rounds as there are names find exactly the base and what is below it; more rounds find
nothing more. -/
theorem mem_closure_ofDeclarations_iff {rounds : Nat}
    (hrounds : (ofDeclarations declarations).size ≤ rounds) :
    x ∈ closure (ofDeclarations declarations).links rounds (.ofList [base]) (.ofList [base]) ↔
      Relation.ReflTransGen (DeclaredBelow declarations) x base := by
  have hnames : ∀ l ∈ (ofDeclarations declarations).links,
      l.1 ∈ (ofDeclarations declarations).names := by
    simp only [ofDeclarations, NameSet.mem_ofList, List.mem_flatMap, List.mem_map, List.mem_cons]
    rintro _ ⟨d, hd, s, -, rfl⟩
    exact ⟨d, hd, .inl rfl⟩
  have hmissing : (missing (ofDeclarations declarations).names (.ofList [base])).size ≤ rounds :=
    (List.length_filter_le _ _).trans hrounds
  rw [mem_closure_iff hnames rounds (fun _ _ _ hy => .inl hy) (fun _ hy => hy) hmissing,
    linked_ofDeclarations]
  simp

/-- The subtypes of a base are the types below it, the base itself left out. -/
theorem mem_subtypesOf_iff :
    x ∈ (ofDeclarations declarations).subtypesOf base ↔
      x ≠ base ∧ Relation.TransGen (DeclaredBelow declarations) x base := by
  rw [subtypesOf, NameSet.mem_filter, mem_closure_ofDeclarations_iff declarations base (Nat.le_refl _),
    Relation.reflTransGen_iff_eq_or_transGen, decide_eq_true_iff]
  constructor
  · rintro ⟨heq | hchain, hne⟩
    · exact absurd heq.symm hne
    · exact ⟨hne, hchain⟩
  · rintro ⟨hne, hchain⟩
    exact ⟨.inr hchain, hne⟩

end TypeIndex

end ServletRoutes
