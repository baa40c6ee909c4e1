import ServletRoutes.TypeIndex

/-!
# `ServletRoutes.TypeIndex.Search`: the type hierarchy as a graph, searched with a queue

The declared hierarchy kept as a graph that grows with each declaration. A name gets a node when it
first comes up, and a declared supertype gets one edge, however often it is declared. The types below
a base are searched breadth first: a node is visited once and then waits in a queue until the nodes
below it are visited. The search ends because each node waits at most once: nodes that are not
visited and nodes that wait become fewer with each step (`Search.pending_step`).
-/

set_option autoImplicit false

namespace ServletRoutes

/-- A type hierarchy, the nodes numbered in the order in which their names came up. -/
structure TypeGraph where
  /-- The name of each node. -/
  names : List Text
  /-- Edges lead from a type to a direct supertype; the newest stands first. -/
  edges : List (Nat × Nat)
  names_nodup : names.Nodup
  edges_nodup : edges.Nodup
  edges_lt : ∀ e ∈ edges, e.1 < names.length ∧ e.2 < names.length

namespace TypeGraph

/-! ### Growing a graph -/

/-- The graph without nodes. -/
def empty : TypeGraph := ⟨[], [], .nil, .nil, by simp⟩

/-- The graph with a node for a name, a new one only if the name has none. -/
def withNode (g : TypeGraph) (name : Text) : TypeGraph :=
  if h : name ∈ g.names then g
  else
    { g with
      names := g.names ++ [name]
      names_nodup := by
        rw [List.nodup_append]
        refine ⟨g.names_nodup, by simp, fun n hn m hm hnm => h ?_⟩
        rwa [← List.mem_singleton.mp hm, ← hnm]
      edges_lt := by
        intro e he
        have := g.edges_lt e he
        simp only [List.length_append, List.length_singleton]
        omega }

/-- The graph with an edge between the nodes of two names, a new one only if there is none. -/
def withEdge (g : TypeGraph) (sub sup : Text) : TypeGraph :=
  let e := (g.names.idxOf sub, g.names.idxOf sup)
  if h : sub ∈ g.names ∧ sup ∈ g.names ∧ e ∉ g.edges then
    { g with
      edges := e :: g.edges
      edges_nodup := List.nodup_cons.mpr ⟨h.2.2, g.edges_nodup⟩
      edges_lt := by
        intro e he
        rcases List.mem_cons.mp he with rfl | he
        · exact ⟨List.idxOf_lt_length_iff.mpr h.1, List.idxOf_lt_length_iff.mpr h.2.1⟩
        · exact g.edges_lt e he }
  else g

/-- The graph with a declared type and its supertypes. -/
def withDeclaration (g : TypeGraph) (d : TypeDeclaration) : TypeGraph :=
  d.supertypes.foldl (fun g sup => (g.withNode sup).withEdge d.name sup) (g.withNode d.name)

/-- The graph of a list of declarations. -/
def ofDeclarations (declarations : List TypeDeclaration) : TypeGraph :=
  declarations.foldl withDeclaration empty

/-- The number of nodes. -/
def size (g : TypeGraph) : Nat := g.names.length

/-! ### Searching a graph -/

/-- A node by its number. -/
abbrev Node (g : TypeGraph) : Type := Fin g.names.length

/-- Comparing nodes decides whether they are the same. -/
instance (g : TypeGraph) : LawfulBEq g.Node := inferInstance

/-- The nodes with an edge to a node. -/
def below (g : TypeGraph) (n : g.Node) : List g.Node :=
  g.edges.attach.filterMap fun e =>
    if e.1.2 = n.val then some ⟨e.1.1, (g.edges_lt e.1 e.2).1⟩ else none

/-- How far a search has come. -/
structure Search (g : TypeGraph) where
  visited : List g.Node
  /-- The visited nodes below which nothing was looked for yet. -/
  queue : List g.Node
  /-- The names of the nodes that were visited on the way. -/
  found : NameSet

namespace Search

variable {g : TypeGraph}

/-- Visits a node, unless it was visited before. -/
def visit (s : Search g) (n : g.Node) : Search g :=
  if n ∈ s.visited then s else ⟨n :: s.visited, s.queue ++ [n], s.found.insert (g.names.get n)⟩

/-- The number of nodes that have still to leave the queue, whether they are in it or not. -/
def pending (s : Search g) : Nat :=
  (List.finRange g.names.length).countP (fun n => n ∉ s.visited) + s.queue.length

/-- One more visited node is one less to visit. -/
private theorem countP_visited {n : g.Node} {visited ns : List g.Node} (hn : n ∉ visited)
    (hns : ns.Nodup) :
    ns.countP (fun m => m ∉ n :: visited) + (if n ∈ ns then 1 else 0) =
      ns.countP (fun m => m ∉ visited) := by
  induction ns with
  | nil => rfl
  | cons m ns ih =>
    have ih := ih (List.nodup_cons.mp hns).2
    by_cases hmn : m = n
    · subst hmn
      have hm : m ∉ ns := (List.nodup_cons.mp hns).1
      simp_all
    · have hnm : n ≠ m := fun h => hmn h.symm
      by_cases hm : m ∈ visited
      · simpa [List.countP_cons, hmn, hnm, hm] using ih
      · simp only [List.countP_cons, List.mem_cons, hmn, hnm, hm, false_or, not_false_iff, decide_true,
          if_true] at ih ⊢
        omega

/-- A visit moves a node into the queue, and so leaves equally many pending. -/
theorem pending_visit (s : Search g) (n : g.Node) : (s.visit n).pending = s.pending := by
  unfold visit
  split
  · rfl
  next hn =>
    have hcount := countP_visited hn (List.nodup_finRange g.names.length)
    rw [if_pos (List.mem_finRange n)] at hcount
    simp only [pending, List.length_append, List.length_singleton]
    omega

/-- Visits one after the other leave equally many pending. -/
theorem pending_visitAll (s : Search g) (ns : List g.Node) :
    (ns.foldl visit s).pending = s.pending := by
  induction ns generalizing s with
  | nil => rfl
  | cons n ns ih => rw [List.foldl_cons, ih, pending_visit]

/-- Before the first step only the start is visited. -/
def start (n : g.Node) : Search g := ⟨[n], [n], .empty⟩

/-- Takes the first node out of the queue and visits what is below it. -/
def step (s : Search g) : Search g :=
  match s.queue with
  | [] => s
  | n :: queue => (g.below n).foldl visit { s with queue }

/-- A step leaves one node less pending. -/
theorem pending_step {s : Search g} (h : s.queue ≠ []) : s.step.pending + 1 = s.pending := by
  obtain ⟨visited, queue, found⟩ := s
  cases queue with
  | nil => exact absurd rfl h
  | cons n queue =>
    rw [step, pending_visitAll]
    rfl

/-- Takes steps until the queue is empty. -/
def finish (s : Search g) : NameSet := if s.queue = [] then s.found else finish s.step
termination_by s.pending
decreasing_by
  have := pending_step ‹_›
  omega

end Search

/-- The types below a base, the base itself left out. -/
def subtypesOf (g : TypeGraph) (base : Text) : NameSet :=
  match g.names.finIdxOf? base with
  | none => .empty
  | some n => (Search.start n).finish

end TypeGraph

end ServletRoutes
