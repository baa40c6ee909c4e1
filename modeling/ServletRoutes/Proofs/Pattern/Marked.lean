import ServletRoutes.Pattern.Matching
import ServletRoutes.Proofs.Pattern.Language

/-!
# `ServletRoutes.Proofs.Pattern.Marked`: the marks keep track of all matches

A pattern with marks is read along with a text. `Tracks` says what the marks
mean at a spot, for matches that may begin at given spots: a reader is marked
when a match has just read a character with it. A part within a larger pattern
begins where the part before it ends, so the spots are passed down.

* `passed_iff` and `finished_iff`: what is asked at a spot says whether matches
  end there, those of no character and those of some.
* `Built.tracks_read`: one more character keeps track, one case per constructor.
* `endsWithin_iff`: so a match ends somewhere in the rest of a text exactly when
  the search finds one.

What is kept with the parts saves work only. `Built` says that it is right, and
without regard to it the functions have the equations `passed_andThen`,
`finished_andThen`, `read_andThen` and so on.
-/

set_option autoImplicit false

namespace ServletRoutes.Pattern

open Relation

namespace Marked

variable {a b m : Marked} {holds : Spot → Bool} {c : Char} {begins : Bool}

/-- What is kept with the parts is what the functions that put patterns together make of them. -/
inductive Built : Marked → Prop
  | empty : Built .empty
  | reader (set : CharSet) (mark : Bool) : Built (.reader set mark)
  | spot (test : Spot) : Built (.spot test)
  | andThen {a b : Marked} : Built a → Built b → Built (a.andThen b)
  | orElse {a b : Marked} : Built a → Built b → Built (a.orElse b)
  | repeated {a : Marked} : Built a → Built a.repeated

/-! ### Without regard to what is kept -/

/-- A sequence has a mark if one of its parts has. -/
@[simp] theorem active_andThen : (a.andThen b).active = (a.active || b.active) := rfl

/-- A choice has a mark if one of its ways has. -/
@[simp] theorem active_orElse : (a.orElse b).active = (a.active || b.active) := rfl

/-- A repetition has a mark if what it repeats has. -/
@[simp] theorem active_repeated : a.repeated.active = a.active := rfl

/-- What is kept of the spots where a pattern is passed is never wrong about them. -/
theorem passed_of_pass (m : Marked) (holds : Spot → Bool) :
    (m.pass = .nowhere → m.passed holds = false) ∧ (m.pass = .everywhere → m.passed holds = true) := by
  cases m with
  | empty | reader _ _ | spot _ => simp [pass, passed]
  | seq _ _ _ p | either _ _ _ p | loop _ _ p => cases p <;> simp [pass, passed]

/-- A sequence is passed where both of its parts are. -/
theorem passed_andThen : (a.andThen b).passed holds = (a.passed holds && b.passed holds) := by
  obtain ⟨hano, haev⟩ := a.passed_of_pass holds
  obtain ⟨hbno, hbev⟩ := b.passed_of_pass holds
  cases ha : a.pass <;> cases hb : b.pass <;> simp_all [andThen, passed, Pass.and]

/-- A choice is passed where one of its ways is. -/
theorem passed_orElse : (a.orElse b).passed holds = (a.passed holds || b.passed holds) := by
  obtain ⟨hano, haev⟩ := a.passed_of_pass holds
  obtain ⟨hbno, hbev⟩ := b.passed_of_pass holds
  cases ha : a.pass <;> cases hb : b.pass <;> simp_all [orElse, passed, Pass.or]

/-- A repetition is passed where what it repeats is. -/
theorem passed_repeated : a.repeated.passed holds = a.passed holds := by
  obtain ⟨hno, hev⟩ := a.passed_of_pass holds
  cases ha : a.pass <;> simp_all [repeated, passed]

/-- Without marks no match is under way. -/
theorem finished_of_idle (h : m.active = false) : m.finished holds = false := by
  cases m with
  | empty | spot _ => rfl
  | reader _ mark => exact h
  | seq _ _ _ _ | either _ _ _ _ | loop _ _ _ => rw [active] at h; rw [finished, h, Bool.false_and]

/-- A match of a sequence ends with its second part, or with the first where the second is
passed. -/
theorem finished_andThen : (a.andThen b).finished holds =
    (b.finished holds || a.finished holds && b.passed holds) := by
  rw [andThen, finished]
  cases ha : a.active <;> cases hb : b.active <;> simp [ha, hb, finished_of_idle]

/-- A match of a choice ends with one of its ways. -/
theorem finished_orElse : (a.orElse b).finished holds = (a.finished holds || b.finished holds) := by
  rw [orElse, finished]
  cases ha : a.active <;> cases hb : b.active <;> simp [ha, hb, finished_of_idle]

/-- A match of a repetition ends with what it repeats. -/
theorem finished_repeated : a.repeated.finished holds = a.finished holds := by
  rw [repeated, finished]
  cases ha : a.active <;> simp [ha, finished_of_idle]

/-- Without marks, and where no match may begin, nothing changes. -/
theorem Built.read_of_idle (hm : Built m) (h : m.active = false) : m.read holds c false = m := by
  cases hm with
  | empty | spot _ => rfl
  | reader set mark =>
    have hmark : mark = false := h
    rw [read, hmark, Bool.false_and]
  | andThen _ _ | orElse _ _ | repeated _ =>
    exact if_neg (by simpa using h)

/-- One more character with a sequence: the second part also begins where the first one ends. -/
theorem read_andThen (ha : Built a) (hb : Built b) : (a.andThen b).read holds c begins =
    (a.read holds c begins).andThen
      (b.read holds c (begins && a.passed holds || a.finished holds)) := by
  rw [andThen, read]
  split
  · rfl
  next h =>
    simp only [Bool.or_eq_true, not_or, Bool.not_eq_true] at h
    obtain ⟨rfl, hidle, hidle'⟩ := h
    rw [finished_of_idle hidle, Bool.false_and, Bool.false_or, ha.read_of_idle hidle,
      hb.read_of_idle hidle', andThen]

/-- One more character with a choice is one more with each of its ways. -/
theorem read_orElse (ha : Built a) (hb : Built b) : (a.orElse b).read holds c begins =
    (a.read holds c begins).orElse (b.read holds c begins) := by
  rw [orElse, read]
  split
  · rfl
  next h =>
    simp only [Bool.or_eq_true, not_or, Bool.not_eq_true] at h
    obtain ⟨rfl, hidle, hidle'⟩ := h
    rw [ha.read_of_idle hidle, hb.read_of_idle hidle', orElse]

/-- One more character with a repetition, which also begins where a match of it ends. -/
theorem read_repeated (ha : Built a) : a.repeated.read holds c begins =
    (a.read holds c (begins || a.finished holds)).repeated := by
  rw [repeated, read]
  split
  · rfl
  next h =>
    simp only [Bool.or_eq_true, not_or, Bool.not_eq_true] at h
    obtain ⟨rfl, hidle⟩ := h
    rw [finished_of_idle hidle, Bool.false_or, ha.read_of_idle hidle, repeated]

/-- One more character leaves what is kept right. -/
theorem Built.read (hm : Built m) : Built (m.read holds c begins) := by
  induction hm generalizing begins with
  | empty => exact .empty
  | reader set _ => exact .reader set _
  | spot test => exact .spot test
  | andThen ha hb iha ihb => rw [read_andThen ha hb]; exact iha.andThen ihb
  | orElse ha hb iha ihb => rw [read_orElse ha hb]; exact iha.orElse ihb
  | repeated ha ih => rw [read_repeated ha]; exact ih.repeated

/-! ### Matches -/

variable {text : Text} {i j : Nat} {starts : Nat → Prop}

/-- The pattern matches the part of the text between two spots, whatever its marks are. -/
def Matches (text : Text) : Marked → Nat → Nat → Prop
  | empty => Eq
  | reader set _ => set.Reads text
  | spot test => fun i j => Spot.holdsAt text i test = true ∧ i = j
  | seq first second _ _ => Comp (first.Matches text) (second.Matches text)
  | either left right _ _ => fun i j => left.Matches text i j ∨ right.Matches text i j
  | loop body _ _ => TransGen (body.Matches text)

/-- Matches lead forward. -/
theorem forward_matches (text : Text) (m : Marked) : Forward (m.Matches text) := by
  induction m with
  | empty => exact fun _ _ h => Nat.le_of_eq h
  | reader set _ =>
    rintro i _ ⟨_, _, _, rfl⟩
    exact Nat.le_succ i
  | spot test => exact fun _ _ h => Nat.le_of_eq h.2
  | seq _ _ _ _ ihf ihs => exact ihf.comp ihs
  | either _ _ _ _ ihl ihr => exact fun _ _ h => h.elim (ihl ·) (ihr ·)
  | loop _ _ _ ih => exact ih.transGen

/-- Reading changes marks only. -/
theorem Built.matches_read (hm : Built m) :
    (m.read holds c begins).Matches text = m.Matches text := by
  induction hm generalizing begins with
  | empty | reader _ _ | spot _ => rfl
  | andThen ha hb iha ihb =>
    rw [read_andThen ha hb]
    show Comp _ _ = Comp _ _
    rw [iha, ihb]
  | orElse ha hb iha ihb =>
    rw [read_orElse ha hb]
    funext i j
    show (_ ∨ _) = (_ ∨ _)
    rw [iha, ihb]
  | repeated ha ih =>
    rw [read_repeated ha]
    show TransGen _ = TransGen _
    rw [ih]

/-- A pattern is passed at a spot exactly when it matches nothing there. -/
theorem Built.passed_iff (hm : Built m) :
    m.passed (Spot.holdsAt text i) = true ↔ m.Matches text i i := by
  induction hm with
  | empty => exact iff_of_true rfl rfl
  | reader set _ => exact iff_of_false Bool.false_ne_true fun ⟨_, _, _, h⟩ => by omega
  | spot test => exact (and_iff_left rfl).symm
  | @andThen a b _ _ iha ihb =>
    rw [passed_andThen, Bool.and_eq_true, iha, ihb]
    refine ⟨fun h => ⟨i, h⟩, fun ⟨k, hik, hki⟩ => ?_⟩
    -- matches lead forward, so nothing is left between
    obtain rfl : i = k := Nat.le_antisymm (forward_matches text a hik) (forward_matches text b hki)
    exact ⟨hik, hki⟩
  | orElse _ _ iha ihb =>
    rw [passed_orElse, Bool.or_eq_true, iha, ihb]
    rfl
  | @repeated a _ ih =>
    rw [passed_repeated, ih]
    refine ⟨.single, fun h => ?_⟩
    obtain ⟨k, hik, hki⟩ := TransGen.head'_iff.1 h
    obtain ⟨n, hsteps⟩ := reflTransGen_iff_steps.1 hki
    have hle : k ≤ i := (forward_matches text a).steps n hsteps
    obtain rfl : i = k := Nat.le_antisymm (forward_matches text a hik) hle
    exact hik

/-! ### Marks -/

/-- The spots that a relation leads to from given ones. -/
def Reached (starts : Nat → Prop) (r : Nat → Nat → Prop) (j : Nat) : Prop := ∃ i, starts i ∧ r i j

/-- A reader is marked when a match that began at one of the spots `starts` has just read a character
with it. -/
def Tracks (text : Text) (i : Nat) : (Nat → Prop) → Marked → Prop
  | _, empty | _, spot _ => True
  | starts, reader set mark => mark = true ↔ Reached starts (set.Reads text) i
  | starts, seq first second _ _ =>
    first.Tracks text i starts ∧ second.Tracks text i (Reached starts (first.Matches text))
  | starts, either left right _ _ => left.Tracks text i starts ∧ right.Tracks text i starts
  -- the body begins where the loop does, and wherever it has ended
  | starts, loop body _ _ =>
    body.Tracks text i (Reached starts (ReflTransGen (body.Matches text)))

/-- Before anything is read there are no marks. -/
theorem Built.tracks_start (hm : Built m) (h : m.active = false) (starts : Nat → Prop) :
    m.Tracks text 0 starts := by
  induction hm generalizing starts with
  | empty | spot _ => trivial
  | reader set mark =>
    have hmark : mark = false := h
    refine iff_of_false (by simp [hmark]) fun ⟨_, _, _, _, _, hlast⟩ => ?_
    omega
  | andThen _ _ iha ihb | orElse _ _ iha ihb =>
    have hidle := Bool.or_eq_false_iff.1 h
    exact ⟨iha hidle.1 _, ihb hidle.2 _⟩
  | repeated _ ih => exact ih h _

/-- A match ends at a spot that it has not begun at exactly when the marks say so. -/
theorem Built.finished_iff (hm : Built m) (ht : m.Tracks text j starts) :
    m.finished (Spot.holdsAt text j) = true ↔ ∃ i < j, starts i ∧ m.Matches text i j := by
  induction hm generalizing starts with
  | empty => exact iff_of_false Bool.false_ne_true fun ⟨_, hlt, _, heq⟩ => Nat.ne_of_lt hlt heq
  | spot test => exact iff_of_false Bool.false_ne_true fun ⟨_, hlt, _, heq⟩ => Nat.ne_of_lt hlt heq.2
  | reader set mark =>
    refine ht.trans ⟨fun ⟨i, hi, hread⟩ => ⟨i, ?_, hi, hread⟩, fun ⟨i, _, hi, hread⟩ => ⟨i, hi, hread⟩⟩
    obtain ⟨_, _, _, rfl⟩ := hread
    exact Nat.lt_succ_self i
  | @andThen a b ha hb iha ihb =>
    rw [finished_andThen, Bool.or_eq_true, Bool.and_eq_true, ihb ht.2, iha ht.1, hb.passed_iff]
    constructor
    -- the last character was read with the second part, or with the first one and the second is
    -- empty
    · rintro (⟨k, hlt, ⟨i, hi, hik⟩, hkj⟩ | ⟨⟨i, hlt, hi, hij⟩, hjj⟩)
      · exact ⟨i, Nat.lt_of_le_of_lt (forward_matches text a hik) hlt, hi, k, hik, hkj⟩
      · exact ⟨i, hlt, hi, j, hij, hjj⟩
    · rintro ⟨i, hlt, hi, k, hik, hkj⟩
      rcases Nat.eq_or_lt_of_le (forward_matches text b hkj) with rfl | hlt'
      · exact .inr ⟨⟨i, hlt, hi, hik⟩, hkj⟩
      · exact .inl ⟨k, hlt', ⟨i, hi, hik⟩, hkj⟩
  | orElse _ _ iha ihb =>
    rw [finished_orElse, Bool.or_eq_true, iha ht.1, ihb ht.2, ← exists_or]
    simp only [← and_or_left]
    rfl
  | @repeated a _ ih =>
    rw [finished_repeated, ih ht]
    constructor
    -- the round that read the last character is the last round of some
    · rintro ⟨k, hlt, ⟨i, hi, hik⟩, hkj⟩
      obtain ⟨n, hsteps⟩ := reflTransGen_iff_steps.1 hik
      have hle : i ≤ k := (forward_matches text a).steps n hsteps
      exact ⟨i, Nat.lt_of_le_of_lt hle hlt, hi, TransGen.tail' hik hkj⟩
    · rintro ⟨i, hlt, hi, hij⟩
      rcases (forward_matches text a).reflTransGen_cases hij.to_reflTransGen with rfl | h
      · exact absurd hlt (Nat.lt_irrefl _)
      · obtain ⟨k, hlt', hik, hkj⟩ := h
        exact ⟨k, hlt', ⟨i, hi, hik⟩, hkj⟩

/-- The spots where the second part of a sequence may begin, asked when the first one is read. -/
theorem Built.reached_iff (hm : Built m) (ht : m.Tracks text j starts)
    (hbegins : begins = true ↔ starts j) :
    (begins && m.passed (Spot.holdsAt text j) || m.finished (Spot.holdsAt text j)) = true ↔
      Reached starts (m.Matches text) j := by
  rw [Bool.or_eq_true, Bool.and_eq_true, hbegins, hm.passed_iff, hm.finished_iff ht]
  constructor
  · rintro (⟨hj, hjj⟩ | ⟨i, _, hi, hij⟩)
    · exact ⟨j, hj, hjj⟩
    · exact ⟨i, hi, hij⟩
  · rintro ⟨i, hi, hij⟩
    rcases Nat.eq_or_lt_of_le (forward_matches text m hij) with rfl | hlt
    · exact .inl ⟨hi, hij⟩
    · exact .inr ⟨i, hlt, hi, hij⟩

/-- The spots where the body of a loop may begin. -/
theorem Built.reached_loop_iff (hm : Built m)
    (ht : m.Tracks text j (Reached starts (ReflTransGen (m.Matches text))))
    (hbegins : begins = true ↔ starts j) :
    (begins || m.finished (Spot.holdsAt text j)) = true ↔
      Reached starts (ReflTransGen (m.Matches text)) j := by
  rw [Bool.or_eq_true, hbegins, hm.finished_iff ht]
  constructor
  · rintro (hj | ⟨k, _, ⟨i, hi, hik⟩, hkj⟩)
    · exact ⟨j, hj, .refl⟩
    · exact ⟨i, hi, hik.tail hkj⟩
  · rintro ⟨i, hi, hij⟩
    rcases (forward_matches text m).reflTransGen_cases hij with rfl | ⟨k, hlt, hik, hkj⟩
    · exact .inl hi
    · exact .inr ⟨k, hlt, ⟨i, hi, hik⟩, hkj⟩

/-- One more character keeps track of the matches. -/
theorem Built.tracks_read (hm : Built m) (ht : m.Tracks text i starts)
    (hbegins : begins = true ↔ starts i) (hc : text[i]? = some c) :
    (m.read (Spot.holdsAt text i) c begins).Tracks text (i + 1) starts := by
  induction hm generalizing starts begins with
  | empty | spot _ => trivial
  | reader set mark =>
    show (begins && set.contains c) = true ↔ Reached starts (set.Reads text) (i + 1)
    rw [Bool.and_eq_true, hbegins]
    constructor
    · rintro ⟨hi, hset⟩
      exact ⟨i, hi, c, hc, hset, rfl⟩
    · rintro ⟨j, hj, d, hd, hset, hnext⟩
      -- a match that has just read a character began one spot before
      obtain rfl : i = j := by omega
      obtain rfl : c = d := Option.some.inj (hc.symm.trans hd)
      exact ⟨hj, hset⟩
  | @andThen a b ha hb iha ihb =>
    rw [read_andThen ha hb]
    refine ⟨iha ht.1 hbegins, ?_⟩
    -- where the second part may begin is told by the first one before it reads
    rw [ha.matches_read]
    exact ihb ht.2 (ha.reached_iff ht.1 hbegins)
  | orElse ha hb iha ihb =>
    rw [read_orElse ha hb]
    exact ⟨iha ht.1 hbegins, ihb ht.2 hbegins⟩
  | @repeated a ha ih =>
    rw [read_repeated ha]
    show Tracks text (i + 1) (Reached starts (ReflTransGen (Matches text (a.read _ c _)))) _
    rw [ha.matches_read]
    exact ih ht (ha.reached_loop_iff ht hbegins)

/-! ### The search -/

/-- What is asked at a spot says whether a match ends there that began at any spot. -/
theorem Built.ends_iff (hm : Built m) (ht : m.Tracks text j fun _ => True) :
    (m.passed (Spot.holdsAt text j) || m.finished (Spot.holdsAt text j)) = true ↔
      ∃ i, m.Matches text i j := by
  have h : (true && m.passed _ || m.finished _) = true ↔ Reached (fun _ => True) (m.Matches text) j :=
    hm.reached_iff ht (iff_of_true rfl trivial)
  exact h.trans (exists_congr fun i => and_iff_right trivial)

/-- The search finds whether a match ends at the end of `front` or further on. -/
theorem Built.endsWithin_iff (hm : Built m) (front rest : Text) (htext : front ++ rest = text)
    (ht : m.Tracks text front.length fun _ => True) :
    m.endsWithin front.getLast? rest = true ↔
      ∃ i j, front.length ≤ j ∧ j ≤ text.length ∧ m.Matches text i j := by
  induction rest generalizing front m with
  | nil =>
    have hends := hm.ends_iff ht
    rw [List.append_nil] at htext
    subst htext
    rw [Spot.holdsAt, List.take_length, List.drop_length] at hends
    refine hends.trans ⟨fun ⟨i, h⟩ => ⟨i, _, Nat.le_refl _, Nat.le_refl _, h⟩, ?_⟩
    rintro ⟨i, j, hle, hle', h⟩
    exact ⟨i, Nat.le_antisymm hle hle' ▸ h⟩
  | cons c rest ih =>
    have hends := hm.ends_iff ht
    have hholds : Spot.holdsAt text front.length = Spot.holds front.getLast? (some c) := by
      rw [Spot.holdsAt, ← htext, List.take_left, List.drop_left, List.head?_cons]
    have hread : (m.read (Spot.holdsAt text front.length) c true).Tracks text (front ++ [c]).length
        fun _ => True := by
      rw [List.length_append]
      exact hm.tracks_read ht (iff_of_true rfl trivial) (by simp [← htext])
    have hrest := ih hm.read _ (List.append_assoc front [c] rest ▸ htext) hread
    rw [hm.matches_read, List.length_append, List.getLast?_concat] at hrest
    rw [endsWithin, ← hholds, Bool.or_eq_true, hends, hrest]
    -- a match ends here, or it ends at the next spot or further on
    constructor
    · rintro (⟨i, h⟩ | ⟨i, j, hle, hle', h⟩)
      · exact ⟨i, _, Nat.le_refl _, by simp [← htext], h⟩
      · exact ⟨i, j, Nat.le_of_succ_le hle, hle', h⟩
    · rintro ⟨i, j, hle, hle', h⟩
      rcases Nat.eq_or_lt_of_le hle with rfl | hlt
      · exact .inl ⟨i, h⟩
      · exact .inr ⟨i, j, hlt, hle', h⟩

end Marked

end ServletRoutes.Pattern
