import Mathlib.Data.List.Basic
import ServletRoutes.Annotations.Value

/-!
# `ServletRoutes.Proofs.Annotations.Value`: the scalars of a value and their places

A place in a value is a list of positions, from the outermost array inwards.
`ScalarAt` says which scalar stands at a place, and `tokens_depthFirst` that
the tokens of a value are its scalars in the order of their places, each place
once. An unsupported value is no scalar, and taking it out of the array it
stands in changes no tokens (`tokens_supported`).
-/

set_option autoImplicit false

namespace ServletRoutes.Annotations.Value

/-- The scalar at a place in a value. -/
inductive ScalarAt : Value → List Nat → Text → Prop
  | text (content : Text) : ScalarAt (.text content) [] content
  | typeRef (name : Text) : ScalarAt (.typeRef name) [] name
  | boolean (value : Bool) :
      ScalarAt (.boolean value) [] (if value then "true".toList else "false".toList)
  | enumConstant (typeName constant : Text) :
      ScalarAt (.enumConstant typeName constant) [] constant
  | item {items : List Value} {position : Nat} {item : Value} {place : List Nat} {token : Text}
      (hitem : items[position]? = some item) (hscalar : ScalarAt item place token) :
      ScalarAt (.array items) (position :: place) token

/-- The tokens are the scalars of the value, depth first and from left to right: in the order of their
places, and each place once. -/
def DepthFirst (value : Value) (tokens : List Text) : Prop :=
  ∃ placed : List (List Nat × Text), placed.map (·.2) = tokens ∧
    (placed.map (·.1)).Pairwise (· < ·) ∧
    ∀ place token, (place, token) ∈ placed ↔ ScalarAt value place token

mutual

/-- The scalars of a value with their places. -/
def placed : Value → List (List Nat × Text)
  | text content => [([], content)]
  | typeRef name => [([], name)]
  | boolean value => [([], if value then "true".toList else "false".toList)]
  | enumConstant _ constant => [([], constant)]
  | array items => placedFrom 0 items
  | unsupported _ => []

/-- The scalars of several values with their places, where the first value has a given position. -/
def placedFrom : Nat → List Value → List (List Nat × Text)
  | _, [] => []
  | position, item :: items =>
    item.placed.map (fun e => (position :: e.1, e.2)) ++ placedFrom (position + 1) items

end

mutual

/-- Without their places the scalars of a value are its tokens. -/
theorem map_placed : ∀ value : Value, value.placed.map (·.2) = value.tokens
  | text _ | typeRef _ | boolean _ | enumConstant _ _ | unsupported _ => rfl
  | array items => map_placedFrom 0 items

/-- Without their places the scalars of some items are their tokens. -/
theorem map_placedFrom : ∀ (position : Nat) (items : List Value),
    (placedFrom position items).map (·.2) = tokensOf items
  | _, [] => rfl
  | position, item :: items => by
    rw [placedFrom, tokensOf, List.map_append, List.map_map, map_placedFrom (position + 1) items,
      ← map_placed item]
    rfl

end

mutual

/-- A token is placed exactly where the value has it as a scalar. -/
theorem mem_placed {place : List Nat} {token : Text} :
    ∀ value : Value, (place, token) ∈ value.placed ↔ ScalarAt value place token
  | text _ | typeRef _ | boolean _ | enumConstant _ _ => by
    rw [placed, List.mem_singleton, Prod.mk.injEq]
    constructor
    · rintro ⟨rfl, rfl⟩
      constructor
    · rintro ⟨⟩
      exact ⟨rfl, rfl⟩
  | unsupported _ => iff_of_false List.not_mem_nil nofun
  | array items => by
    rw [placed, mem_placedFrom 0 items]
    constructor
    · rintro ⟨offset, item, rest, hitem, rfl, hscalar⟩
      rw [Nat.zero_add]
      exact .item hitem hscalar
    · rintro ⟨⟩
      next position item rest hitem hscalar =>
        exact ⟨position, item, rest, hitem, by rw [Nat.zero_add], hscalar⟩

/-- A token is placed among items exactly where one of them has it as a scalar. -/
theorem mem_placedFrom {place : List Nat} {token : Text} :
    ∀ (position : Nat) (items : List Value), (place, token) ∈ placedFrom position items ↔
      ∃ offset item rest, items[offset]? = some item ∧ place = (position + offset) :: rest ∧
        ScalarAt item rest token
  | _, [] => by simp [placedFrom]
  | position, item :: items => by
    simp only [placedFrom, List.mem_append, List.mem_map, Prod.mk.injEq, Prod.exists,
      mem_placed item, mem_placedFrom (position + 1) items]
    constructor
    · rintro (⟨rest, _, hscalar, rfl, rfl⟩ | ⟨offset, item', rest, hitem, rfl, hscalar⟩)
      · exact ⟨0, item, rest, rfl, rfl, hscalar⟩
      · exact ⟨offset + 1, item', rest, hitem, by rw [Nat.add_right_comm, Nat.add_assoc], hscalar⟩
    · rintro ⟨offset, item', rest, hitem, rfl, hscalar⟩
      cases offset with
      | zero =>
        obtain rfl : item = item' := by simpa using hitem
        exact .inl ⟨rest, token, hscalar, rfl, rfl⟩
      | succ offset =>
        exact .inr ⟨offset, item', rest, hitem, by rw [Nat.add_right_comm, Nat.add_assoc], hscalar⟩

end

/-- The first position of a place among several values is at least that of the first of them. -/
theorem head_of_mem_placedFrom {position : Nat} {items : List Value} {place : List Nat}
    (h : place ∈ (placedFrom position items).map (·.1)) :
    ∃ first rest, position ≤ first ∧ place = first :: rest := by
  obtain ⟨⟨place, token⟩, hmem, rfl⟩ := List.mem_map.mp h
  obtain ⟨offset, _, rest, _, rfl, _⟩ := (mem_placedFrom position items).mp hmem
  exact ⟨position + offset, rest, Nat.le_add_right _ _, rfl⟩

mutual

/-- The scalars of a value are placed in ascending order. -/
theorem placed_sorted : ∀ value : Value, (value.placed.map (·.1)).Pairwise (· < ·)
  | text _ | typeRef _ | boolean _ | enumConstant _ _ => List.pairwise_singleton _ _
  | unsupported _ => .nil
  | array items => placedFrom_sorted 0 items

/-- The scalars of some items are placed in ascending order. -/
theorem placedFrom_sorted : ∀ (position : Nat) (items : List Value),
    ((placedFrom position items).map (·.1)).Pairwise (· < ·)
  | _, [] => .nil
  | position, item :: items => by
    -- the places in the first value, those in the later ones, and the ones before the others
    rw [placedFrom, List.map_append, List.map_map, List.pairwise_append]
    refine ⟨?_, placedFrom_sorted (position + 1) items, fun place hplace place' hplace' => ?_⟩
    · -- behind the same position the places inside the item decide
      have hbehind : ((item.placed.map (·.1)).map (position :: ·)).Pairwise (· < ·) :=
        (placed_sorted item).map _ fun _ _ hlt => List.cons_lt_cons_self.mpr hlt
      rwa [List.map_map] at hbehind
    · obtain ⟨e, _, rfl⟩ := List.mem_map.mp hplace
      obtain ⟨first, rest, hfirst, rfl⟩ := head_of_mem_placedFrom hplace'
      exact List.Lex.rel hfirst

end

/-- The tokens of a value are its scalars, depth first and from left to right. -/
theorem tokens_depthFirst (value : Value) : value.DepthFirst value.tokens :=
  ⟨value.placed, map_placed value, placed_sorted value, fun _ _ => mem_placed value⟩

mutual

/-- A value without the unsupported items of its arrays, at any depth. -/
def supported : Value → Value
  | array items => array (supportedOf items)
  | value => value

/-- Values without the unsupported ones. -/
def supportedOf : List Value → List Value
  | [] => []
  | unsupported _ :: items => supportedOf items
  | item :: items => item.supported :: supportedOf items

end

mutual

/-- Unsupported items have no tokens and leave those of the other items as they are. -/
theorem tokens_supported : ∀ value : Value, value.supported.tokens = value.tokens
  | text _ | typeRef _ | boolean _ | enumConstant _ _ | unsupported _ => rfl
  | array items => tokensOf_supportedOf items

/-- Items that are not supported have no tokens. -/
theorem tokensOf_supportedOf : ∀ items : List Value, tokensOf (supportedOf items) = tokensOf items
  | [] => rfl
  | unsupported _ :: items => tokensOf_supportedOf items
  | text _ :: items | typeRef _ :: items | boolean _ :: items | enumConstant _ _ :: items =>
    congrArg (_ ++ ·) (tokensOf_supportedOf items)
  | array nested :: items =>
    congrArg₂ (· ++ ·) (tokens_supported (array nested)) (tokensOf_supportedOf items)

end

end ServletRoutes.Annotations.Value
