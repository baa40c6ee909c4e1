import Mathlib.Data.Finset.Card
import Mathlib.Logic.Function.Iterate
import ServletRoutes.Proofs.TypeIndex.Closure
import ServletRoutes.TypeIndex.Search

/-!
# `ServletRoutes.Proofs.TypeIndex.Search`: the search finds the declared subtypes

The graph of a list of declarations has a node for each name that they
mention and an edge for each supertype that they list
(`TypeGraph.mem_names_ofDeclarations`, `TypeGraph.hasEdge_ofDeclarations`),
so chains of edges are chains of declarations.

`TypeGraph.Search.Invariant` is what each step of a search keeps: what was
visited leads to the start, and what is below a visited node is visited or
will be, because the node still waits in the queue. A search with an empty
queue has therefore visited exactly the nodes from which a chain leads to
the start, and `TypeGraph.Search.queue_iterate_step` says after how many
steps the queue is empty.

`TypeIndex.subtypesOf_declared` puts it together: rounds and queue find the
same types, and these are the declared subtypes.
-/

set_option autoImplicit false

namespace ServletRoutes

namespace TypeGraph

variable {g : TypeGraph} {name sub sup x y : Text}

/-- An edge leads from the node of one name to the node of another. -/
structure HasEdge (g : TypeGraph) (sub sup : Text) : Prop where
  sub_mem : sub ∈ g.names
  sup_mem : sup ∈ g.names
  edge_mem : (g.names.idxOf sub, g.names.idxOf sup) ∈ g.edges

/-! ### Growing a graph -/

/-- A node is added for the name. -/
theorem mem_names_withNode : x ∈ (g.withNode name).names ↔ x ∈ g.names ∨ x = name := by
  unfold withNode
  split
  next h =>
    constructor
    · exact .inl
    · rintro (hx | rfl)
      · exact hx
      · exact h
  next h => simp

/-- Names keep their numbers when a node is added. -/
theorem idxOf_withNode (hx : x ∈ g.names) : (g.withNode name).names.idxOf x = g.names.idxOf x := by
  unfold withNode
  split
  · rfl
  · exact List.idxOf_append_of_mem hx

/-- No edge is added with a node. -/
theorem hasEdge_withNode : (g.withNode name).HasEdge x y ↔ g.HasEdge x y := by
  have hedges : (g.withNode name).edges = g.edges := by
    unfold withNode
    split <;> rfl
  -- an edge of the larger graph ends at nodes of the smaller one
  have hold (z : Text) (hz : z ∈ (g.withNode name).names)
      (hlt : (g.withNode name).names.idxOf z < g.names.length) : z ∈ g.names := by
    by_contra hnot
    obtain rfl : z = name := (mem_names_withNode.mp hz).resolve_left hnot
    rw [withNode, dif_neg hnot] at hlt
    simp only [List.idxOf_append_of_notMem hnot] at hlt
    omega
  constructor
  · rintro ⟨hx, hy, he⟩
    rw [hedges] at he
    obtain ⟨hxlt, hylt⟩ := g.edges_lt _ he
    have hx := hold x hx hxlt
    have hy := hold y hy hylt
    rw [idxOf_withNode hx, idxOf_withNode hy] at he
    exact ⟨hx, hy, he⟩
  · rintro ⟨hx, hy, he⟩
    refine ⟨mem_names_withNode.mpr (.inl hx), mem_names_withNode.mpr (.inl hy), ?_⟩
    rwa [hedges, idxOf_withNode hx, idxOf_withNode hy]

/-- No node is added with an edge. -/
theorem names_withEdge : (g.withEdge sub sup).names = g.names := by
  unfold withEdge
  simp only
  split <;> rfl

/-- Between the nodes of two names the edge is added that leads from the one to the other. -/
theorem hasEdge_withEdge (hsub : sub ∈ g.names) (hsup : sup ∈ g.names) :
    (g.withEdge sub sup).HasEdge x y ↔ g.HasEdge x y ∨ (x = sub ∧ y = sup) := by
  have hedges (e : Nat × Nat) : e ∈ (g.withEdge sub sup).edges ↔
      e = (g.names.idxOf sub, g.names.idxOf sup) ∨ e ∈ g.edges := by
    -- an edge that is there already is not added again
    unfold withEdge
    simp only
    split
    next h => exact List.mem_cons
    next h =>
      have hmem : (g.names.idxOf sub, g.names.idxOf sup) ∈ g.edges := by
        by_contra hnot
        exact h ⟨hsub, hsup, hnot⟩
      constructor
      · exact .inr
      · rintro (rfl | he)
        · exact hmem
        · exact he
  constructor
  · rintro ⟨hx, hy, he⟩
    rw [names_withEdge] at hx hy he
    rcases (hedges _).mp he with heq | he
    · -- different names have different numbers
      obtain ⟨hi, hj⟩ := Prod.mk.inj heq
      exact .inr ⟨(List.idxOf_inj hx).mp hi, (List.idxOf_inj hy).mp hj⟩
    · exact .inl ⟨hx, hy, he⟩
  · rintro (⟨hx, hy, he⟩ | ⟨rfl, rfl⟩)
    · refine ⟨by rwa [names_withEdge], by rwa [names_withEdge], ?_⟩
      rw [names_withEdge]
      exact (hedges _).mpr (.inr he)
    · refine ⟨by rwa [names_withEdge], by rwa [names_withEdge], ?_⟩
      rw [names_withEdge]
      exact (hedges _).mpr (.inl rfl)

/-- Supertypes of a type with a node get a node and an edge each. -/
theorem foldl_supertypes (supertypes : List Text) (hsub : sub ∈ g.names) :
    let grown := supertypes.foldl (fun g sup => (g.withNode sup).withEdge sub sup) g
    (∀ x, x ∈ grown.names ↔ x ∈ g.names ∨ x ∈ supertypes) ∧
      ∀ x y, grown.HasEdge x y ↔ g.HasEdge x y ∨ (x = sub ∧ y ∈ supertypes) := by
  induction supertypes generalizing g with
  | nil => simp
  | cons sup supertypes ih =>
    have hsub' : sub ∈ (g.withNode sup).names := mem_names_withNode.mpr (.inl hsub)
    have hsup' : sup ∈ (g.withNode sup).names := mem_names_withNode.mpr (.inr rfl)
    obtain ⟨hnames, hedges⟩ := ih (g := (g.withNode sup).withEdge sub sup)
      (by rwa [names_withEdge])
    refine ⟨fun x => ?_, fun x y => ?_⟩
    · rw [List.foldl_cons, hnames, names_withEdge, mem_names_withNode, List.mem_cons, or_assoc]
    · rw [List.foldl_cons, hedges, hasEdge_withEdge hsub' hsup', hasEdge_withNode, List.mem_cons,
        and_or_left, or_assoc]

/-- The nodes of a graph are the names that the declarations mention, and its edges lead from a
declared type to the supertypes that its declarations list. -/
theorem foldl_declarations (declarations : List TypeDeclaration) (g : TypeGraph) :
    let grown := declarations.foldl withDeclaration g
    (∀ x, x ∈ grown.names ↔ x ∈ g.names ∨ ∃ d ∈ declarations, x = d.name ∨ x ∈ d.supertypes) ∧
      ∀ x y, grown.HasEdge x y ↔ g.HasEdge x y ∨ DeclaredBelow declarations x y := by
  induction declarations generalizing g with
  | nil => simp [DeclaredBelow]
  | cons d declarations ih =>
    obtain ⟨hnames, hedges⟩ := ih (g.withDeclaration d)
    obtain ⟨hnames', hedges'⟩ := foldl_supertypes (g := g.withNode d.name) d.supertypes
      (mem_names_withNode.mpr (.inr rfl))
    refine ⟨fun x => ?_, fun x y => ?_⟩
    · rw [List.foldl_cons, hnames, withDeclaration, hnames', mem_names_withNode]
      simp only [List.exists_mem_cons_iff, or_assoc]
    · rw [List.foldl_cons, hedges, withDeclaration, hedges', hasEdge_withNode]
      simp only [DeclaredBelow, List.exists_mem_cons_iff, or_assoc, eq_comm]

/-- The names of an index are those declared and those of supertypes. -/
theorem mem_names_ofDeclarations {declarations : List TypeDeclaration} :
    x ∈ (ofDeclarations declarations).names ↔
      ∃ d ∈ declarations, x = d.name ∨ x ∈ d.supertypes := by
  rw [ofDeclarations, (foldl_declarations declarations empty).1, empty]
  simp

/-- The edges of an index are the declarations. -/
theorem hasEdge_ofDeclarations (declarations : List TypeDeclaration) :
    (ofDeclarations declarations).HasEdge = DeclaredBelow declarations := by
  funext x y
  have hempty : ¬ empty.HasEdge x y := fun h => List.not_mem_nil h.sub_mem
  rw [ofDeclarations, (foldl_declarations declarations empty).2, or_iff_right hempty]

/-! ### Edges between nodes -/

/-- One node has an edge to another. -/
def Edge (g : TypeGraph) (n m : g.Node) : Prop := n ∈ g.below m

/-- Edges between nodes are those between their names. -/
theorem edge_iff {n m : g.Node} : g.Edge n m ↔ g.HasEdge g.names[n] g.names[m] := by
  have hmem : n ∈ g.below m ↔ (n.val, m.val) ∈ g.edges := by
    simp only [below, List.mem_filterMap, List.mem_attach, true_and, Option.ite_none_right_eq_some,
      Option.some.injEq, Subtype.exists, Prod.exists]
    constructor
    · rintro ⟨i, j, he, rfl, rfl⟩
      exact he
    · intro he
      exact ⟨n, m, he, rfl, rfl⟩
  rw [Edge, hmem]
  constructor
  · intro he
    refine ⟨List.getElem_mem _, List.getElem_mem _, ?_⟩
    simpa [g.names_nodup.idxOf_getElem] using he
  · rintro ⟨-, -, he⟩
    simpa [g.names_nodup.idxOf_getElem] using he

/-- A chain of edges leads to a node exactly when it leads to its name. -/
theorem chain_iff {start : g.Node} :
    (∃ n, Relation.ReflTransGen g.Edge n start ∧ g.names[n] = x) ↔
      Relation.ReflTransGen g.HasEdge x g.names[start] := by
  constructor
  · rintro ⟨n, hchain, rfl⟩
    exact hchain.lift (fun n => g.names[n]) fun _ _ => edge_iff.mp
  · intro hchain
    induction hchain using Relation.ReflTransGen.head_induction_on with
    | refl => exact ⟨start, .refl, rfl⟩
    | head hedge _ ih =>
      obtain ⟨m, hchain, rfl⟩ := ih
      obtain ⟨i, hi, rfl⟩ := List.getElem_of_mem hedge.sub_mem
      exact ⟨⟨i, hi⟩, hchain.head (edge_iff.mpr hedge), rfl⟩

/-! ### Steps of a search -/

namespace Search

variable {s : Search g} {start n : g.Node}

/-- A visit adds the node to those visited. -/
theorem mem_visited_visit {m : g.Node} : m ∈ (s.visit n).visited ↔ m ∈ s.visited ∨ m = n := by
  unfold visit
  split
  next hn =>
    constructor
    · exact .inl
    · rintro (hm | rfl)
      · exact hm
      · exact hn
  next hn => rw [List.mem_cons, or_comm]

/-- A visit adds the node to the queue if it was not visited before. -/
theorem mem_queue_visit {m : g.Node} :
    m ∈ (s.visit n).queue ↔ m ∈ s.queue ∨ (m = n ∧ m ∉ s.visited) := by
  unfold visit
  split
  next hn =>
    constructor
    · exact .inl
    · rintro (hm | ⟨rfl, hm⟩)
      · exact hm
      · exact absurd hn hm
  next hn =>
    rw [List.mem_append, List.mem_singleton]
    refine or_congr_right ⟨?_, And.left⟩
    rintro rfl
    exact ⟨rfl, hn⟩

/-- A visit adds the name to those found if the node was not visited before. -/
theorem mem_found_visit : x ∈ (s.visit n).found ↔ x ∈ s.found ∨ (n ∉ s.visited ∧ g.names[n] = x) := by
  unfold visit
  split
  next hn => simp [hn]
  next hn =>
    rw [NameSet.mem_insert, or_comm, eq_comm, and_iff_right hn]
    rfl

/-- Visited nodes are added to the visited ones. -/
theorem mem_visited_foldl {ns : List g.Node} :
    n ∈ (ns.foldl visit s).visited ↔ n ∈ s.visited ∨ n ∈ ns := by
  induction ns generalizing s with
  | nil => simp
  | cons m ns ih => rw [List.foldl_cons, ih, mem_visited_visit, List.mem_cons, or_assoc]

/-- The new ones among visited nodes wait in the queue. -/
theorem mem_queue_foldl {ns : List g.Node} :
    n ∈ (ns.foldl visit s).queue ↔ n ∈ s.queue ∨ (n ∈ ns ∧ n ∉ s.visited) := by
  induction ns generalizing s with
  | nil => simp
  | cons m ns ih =>
    rw [List.foldl_cons, ih, mem_queue_visit, mem_visited_visit, List.mem_cons]
    tauto

/-- The names of the new ones among visited nodes are found. -/
theorem mem_found_foldl {ns : List g.Node} :
    x ∈ (ns.foldl visit s).found ↔ x ∈ s.found ∨ ∃ n ∈ ns, n ∉ s.visited ∧ g.names[n] = x := by
  induction ns generalizing s with
  | nil => simp
  | cons m ns ih =>
    rw [List.foldl_cons, ih, mem_found_visit, List.exists_mem_cons_iff, or_assoc]
    simp only [mem_visited_visit, not_or]
    refine or_congr_right ?_
    constructor
    · rintro (h | ⟨n, hn, ⟨hnew, -⟩, hx⟩)
      · exact .inl h
      · exact .inr ⟨n, hn, hnew, hx⟩
    · rintro (h | ⟨n, hn, hnew, hx⟩)
      · exact .inl h
      · by_cases hnm : n = m
        · exact .inl ⟨hnm ▸ hnew, hnm ▸ hx⟩
        · exact .inr ⟨n, hn, ⟨hnew, hnm⟩, hx⟩

/-- What each step of a search from a node keeps. -/
structure Invariant (start : g.Node) (s : Search g) : Prop where
  start_visited : start ∈ s.visited
  /-- Only nodes are visited from which a chain leads to the start. -/
  reaches : ∀ n ∈ s.visited, Relation.ReflTransGen g.Edge n start
  queue_visited : ∀ n ∈ s.queue, n ∈ s.visited
  /-- What is below a visited node is visited, unless the node still waits. -/
  below_visited : ∀ n m, g.Edge n m → m ∈ s.visited → m ∈ s.queue ∨ n ∈ s.visited
  mem_found : ∀ x, x ∈ s.found ↔ ∃ n ∈ s.visited, n ≠ start ∧ g.names[n] = x

/-- The invariant holds where a search starts. -/
theorem invariant_start (n : g.Node) : Invariant n (Search.start n) where
  start_visited := List.mem_singleton_self n
  reaches m hm := List.mem_singleton.mp hm ▸ .refl
  queue_visited m hm := hm
  below_visited m k _ hk := .inl hk
  mem_found x := by simp [Search.start]

/-- A step keeps the invariant: the node that leaves the queue has what is below it visited. -/
theorem Invariant.step (h : Invariant start s) : Invariant start s.step := by
  obtain ⟨visited, queue, found⟩ := s
  cases queue with
  | nil => exact h
  | cons m queue =>
    -- the nodes below the first one are visited, each of which may or may not be new
    let after : Search g := (g.below m).foldl visit ⟨visited, queue, found⟩
    have hvisited (n : g.Node) : n ∈ after.visited ↔ n ∈ visited ∨ g.Edge n m := mem_visited_foldl
    have hqueue (n : g.Node) : n ∈ after.queue ↔ n ∈ queue ∨ (g.Edge n m ∧ n ∉ visited) :=
      mem_queue_foldl
    have hm : m ∈ visited := h.queue_visited m List.mem_cons_self
    show Invariant start after
    constructor
    case start_visited => exact (hvisited start).mpr (.inl h.start_visited)
    case reaches =>
      intro n hn
      rcases (hvisited n).mp hn with hn | hn
      · exact h.reaches n hn
      · exact (h.reaches m hm).head hn
    case queue_visited =>
      intro n hn
      rcases (hqueue n).mp hn with hn | ⟨hn, -⟩
      · exact (hvisited n).mpr (.inl (h.queue_visited n (List.mem_cons_of_mem m hn)))
      · exact (hvisited n).mpr (.inr hn)
    case below_visited =>
      intro n k hedge hk
      rw [hqueue, hvisited]
      -- a node visited before has the nodes below it where they were, unless its turn has come now;
      -- a new one waits
      rcases (hvisited k).mp hk with hk | hk
      · rcases h.below_visited n k hedge hk with hwaits | hn
        · rcases List.mem_cons.mp hwaits with rfl | hwaits
          · exact .inr (.inr hedge)
          · exact .inl (.inl hwaits)
        · exact .inr (.inl hn)
      · by_cases hold : k ∈ visited
        · rcases h.below_visited n k hedge hold with hwaits | hn
          · rcases List.mem_cons.mp hwaits with rfl | hwaits
            · exact .inr (.inr hedge)
            · exact .inl (.inl hwaits)
          · exact .inr (.inl hn)
        · exact .inl (.inr ⟨hk, hold⟩)
    case mem_found =>
      intro x
      rw [mem_found_foldl, h.mem_found]
      constructor
      · rintro (⟨n, hn, hne, rfl⟩ | ⟨n, hn, hnew, rfl⟩)
        · exact ⟨n, (hvisited n).mpr (.inl hn), hne, rfl⟩
        · refine ⟨n, (hvisited n).mpr (.inr hn), ?_, rfl⟩
          rintro rfl
          exact hnew h.start_visited
      · rintro ⟨n, hn, hne, rfl⟩
        by_cases hold : n ∈ visited
        · exact .inl ⟨n, hold, hne, rfl⟩
        · exact .inr ⟨n, ((hvisited n).mp hn).resolve_left hold, hold, rfl⟩

/-- A finished search has found the names of the nodes from which a chain leads to the start, the
start itself left out. -/
theorem Invariant.mem_finish (h : Invariant start s) :
    x ∈ s.finish ↔ ∃ n, n ≠ start ∧ Relation.ReflTransGen g.Edge n start ∧ g.names[n] = x := by
  induction s using finish.induct with
  | case1 s hempty =>
    have hclosed : ∀ n m, g.Edge n m → m ∈ s.visited → n ∈ s.visited := by
      intro n m hedge hm
      simpa [hempty] using h.below_visited n m hedge hm
    have hreaches (n : g.Node) : n ∈ s.visited ↔ Relation.ReflTransGen g.Edge n start := by
      refine ⟨h.reaches n, fun hchain => ?_⟩
      exact (exists_chain_iff_of_closed hclosed n).mp ⟨start, h.start_visited, hchain⟩
    rw [finish, if_pos hempty, h.mem_found]
    simp only [hreaches]
    exact exists_congr fun n => and_left_comm
  | case2 s hwaits ih =>
    rw [finish, if_neg hwaits]
    exact ih h.step

/-- No node waits any more after as many steps as there are nodes pending. -/
theorem queue_iterate_step {steps : Nat} (h : s.pending ≤ steps) :
    (Search.step^[steps] s).queue = [] := by
  induction steps generalizing s with
  | zero =>
    rw [Function.iterate_zero_apply]
    by_contra hwaits
    have hstep := pending_step hwaits
    omega
  | succ steps ih =>
    rw [Function.iterate_succ_apply]
    by_cases hempty : s.queue = []
    · -- a search without waiting nodes stays as it is
      have hfixed : s.step = s := by
        rw [Search.step, hempty]
      rw [hfixed, Function.iterate_fixed hfixed, hempty]
    · have hstep := pending_step hempty
      exact ih (by omega)

/-- As many steps as the graph has nodes empty the queue of a search that begins at one of them. -/
theorem queue_iterate_step_start (n : g.Node) : (Search.step^[g.size] (Search.start n)).queue = [] := by
  have hvisit : (Search.start n).pending = (⟨[], [], .empty⟩ : Search g).pending :=
    pending_visit ⟨[], [], .empty⟩ n
  have hnone : (⟨[], [], .empty⟩ : Search g).pending = g.size := by simp [pending, size]
  exact queue_iterate_step (hvisit.trans hnone).le

end Search

/-- The types below a base are those from which a chain of edges leads to it, the base itself left
out. -/
theorem mem_subtypesOf_iff {base : Text} :
    x ∈ g.subtypesOf base ↔ x ≠ base ∧ Relation.TransGen g.HasEdge x base := by
  unfold subtypesOf
  split
  next hnone =>
    -- no edge ends at a name without a node
    rw [List.finIdxOf?_eq_none_iff] at hnone
    refine iff_of_false NameSet.not_mem_empty fun h => ?_
    obtain ⟨y, -, hedge⟩ := Relation.TransGen.tail'_iff.mp h.2
    exact hnone hedge.sup_mem
  next start hstart =>
    obtain ⟨rfl, -⟩ := List.finIdxOf?_eq_some_iff.mp hstart
    rw [(Search.invariant_start start).mem_finish]
    have hne {n : g.Node} (hx : g.names[n] = x) : n ≠ start ↔ x ≠ g.names[start] := by
      rw [← hx, ne_eq, ne_eq, Fin.ext_iff]
      exact not_congr g.names_nodup.getElem_inj_iff.symm
    constructor
    · rintro ⟨n, hn, hchain, hx⟩
      have hx' : x ≠ g.names[start] := (hne hx).mp hn
      refine ⟨hx', (Relation.reflTransGen_iff_eq_or_transGen.mp ?_).resolve_left hx'.symm⟩
      exact chain_iff.mp ⟨n, hchain, hx⟩
    · rintro ⟨hx', hchain⟩
      obtain ⟨n, hchain, hx⟩ := chain_iff.mpr hchain.to_reflTransGen
      exact ⟨n, (hne hx).mpr hx', hchain, hx⟩

end TypeGraph

/-! ### Rounds and queue -/

namespace TypeIndex

variable (declarations : List TypeDeclaration) (base : Text)

/-- All names that declarations mention, as often as they do. -/
def mentioned : List Text := declarations.flatMap fun d => d.name :: d.supertypes

/-- The queue finds what the rounds find. -/
theorem subtypesOf_ofDeclarations :
    (TypeGraph.ofDeclarations declarations).subtypesOf base =
      (ofDeclarations declarations).subtypesOf base := by
  refine NameSet.ext_of_mem fun x => ?_
  rw [TypeGraph.mem_subtypesOf_iff, TypeGraph.hasEdge_ofDeclarations, mem_subtypesOf_iff]

/-- An index has each mentioned name once. -/
theorem size_ofDeclarations :
    (ofDeclarations declarations).size = (mentioned declarations).toFinset.card := by
  rw [size, NameSet.size, ← List.toFinset_card_of_nodup (NameSet.nodup_toList _)]
  congr 1
  ext x
  rw [List.mem_toFinset, List.mem_toFinset, ← NameSet.mem_def, ofDeclarations, NameSet.mem_ofList,
    mentioned]

/-- A graph has a node for each mentioned name. -/
theorem size_graph_ofDeclarations :
    (TypeGraph.ofDeclarations declarations).size = (mentioned declarations).toFinset.card := by
  rw [TypeGraph.size, ← List.toFinset_card_of_nodup (TypeGraph.names_nodup _)]
  congr 1
  ext x
  simp [TypeGraph.mem_names_ofDeclarations, mentioned]

/-- The index of any declarations holds exactly the declared hierarchy.
* A type is among the subtypes of a base exactly when it is another type and a chain of declarations
  leads from it to the base.
* The search with a queue gives the same set. Its queue is empty after as many steps as there are
  names, and more rounds than there are names find nothing more.
* Every subtype is declared, and a name that no declaration mentions has no subtypes.
* The size is the number of different names that declarations mention. -/
theorem subtypesOf_declared :
    (∀ x, x ∈ (ofDeclarations declarations).subtypesOf base ↔
        x ≠ base ∧ Relation.TransGen (DeclaredBelow declarations) x base) ∧
      (TypeGraph.ofDeclarations declarations).subtypesOf base =
        (ofDeclarations declarations).subtypesOf base ∧
      (∀ n : (TypeGraph.ofDeclarations declarations).Node,
        (TypeGraph.Search.step^[(TypeGraph.ofDeclarations declarations).size] (.start n)).queue =
          []) ∧
      (∀ more, closure (ofDeclarations declarations).links
          ((ofDeclarations declarations).size + more) (.ofList [base]) (.ofList [base]) =
        closure (ofDeclarations declarations).links
          (ofDeclarations declarations).size (.ofList [base]) (.ofList [base])) ∧
      (∀ x ∈ (ofDeclarations declarations).subtypesOf base, ∃ d ∈ declarations, d.name = x) ∧
      (base ∉ mentioned declarations → (ofDeclarations declarations).subtypesOf base = .empty) ∧
      (ofDeclarations declarations).size = (mentioned declarations).toFinset.card ∧
      (TypeGraph.ofDeclarations declarations).size = (ofDeclarations declarations).size := by
  have hmem (x : Text) : x ∈ (ofDeclarations declarations).subtypesOf base ↔
      x ≠ base ∧ Relation.TransGen (DeclaredBelow declarations) x base :=
    mem_subtypesOf_iff declarations base
  refine ⟨hmem, subtypesOf_ofDeclarations declarations base,
    TypeGraph.Search.queue_iterate_step_start, ?_, ?_, ?_, size_ofDeclarations declarations, ?_⟩
  · intro more
    refine NameSet.ext_of_mem fun x => ?_
    rw [mem_closure_ofDeclarations_iff declarations base (Nat.le_add_right _ more),
      mem_closure_ofDeclarations_iff declarations base (Nat.le_refl _)]
  · -- a chain begins with a declaration
    intro x hx
    obtain ⟨y, ⟨d, hd, hname, -⟩, -⟩ := Relation.TransGen.head'_iff.mp ((hmem x).mp hx).2
    exact ⟨d, hd, hname⟩
  · -- and ends with a listed supertype
    intro hunknown
    refine NameSet.ext_of_mem fun x => iff_of_false (fun hx => hunknown ?_) NameSet.not_mem_empty
    obtain ⟨y, -, d, hd, -, hsup⟩ := Relation.TransGen.tail'_iff.mp ((hmem x).mp hx).2
    exact List.mem_flatMap.mpr ⟨d, hd, List.mem_cons_of_mem _ hsup⟩
  · exact (size_graph_ofDeclarations declarations).trans (size_ofDeclarations declarations).symm

/-- Declarations with a cycle, a type below itself, a type declared twice and a supertype that is not
declared. -/
def tangled : List TypeDeclaration := [
  ⟨"Pane".toList, ["Panel".toList, "Panel".toList]⟩, ⟨"Panel".toList, ["View".toList, "Panel".toList]⟩,
  ⟨"View".toList, ["Pane".toList, "Object".toList]⟩, ⟨"Pane".toList, ["Shape".toList]⟩]

/-- A base on the cycle has the other types of the cycle below it, and an unknown base has none. -/
theorem subtypesOf_declared_tangled :
    (ofDeclarations tangled).subtypesOf "Panel".toList = .ofList ["Pane".toList, "View".toList] ∧
      Relation.TransGen (DeclaredBelow tangled) "View".toList "Panel".toList ∧
      (∃ d ∈ tangled, d.name = "View".toList) ∧
      "Window".toList ∉ mentioned tangled ∧
      (ofDeclarations tangled).subtypesOf "Window".toList = .empty ∧
      (ofDeclarations tangled).size = 5 := by
  have hpanel := subtypesOf_declared tangled "Panel".toList
  have hwindow := subtypesOf_declared tangled "Window".toList
  have hsubtypes : (ofDeclarations tangled).subtypesOf "Panel".toList =
      .ofList ["Pane".toList, "View".toList] := by decide +kernel
  have hview : "View".toList ∈ (ofDeclarations tangled).subtypesOf "Panel".toList := by
    decide +kernel
  have hunknown : "Window".toList ∉ mentioned tangled := by decide +kernel
  exact ⟨hsubtypes, ((hpanel.1 _).mp hview).2, hpanel.2.2.2.2.1 _ hview, hunknown,
    hwindow.2.2.2.2.2.1 hunknown, hpanel.2.2.2.2.2.2.1.trans (by decide +kernel)⟩

end TypeIndex

end ServletRoutes
