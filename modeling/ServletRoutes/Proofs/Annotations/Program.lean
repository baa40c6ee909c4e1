import Mathlib.Logic.Function.Basic
import ServletRoutes.Proofs.Annotations.Store
import ServletRoutes.Proofs.Annotations.Value

/-!
# `ServletRoutes.Proofs.Annotations.Program`: what stores hold after a program

A program records values into stores, merges and clones stores and looks keys
up. `Runs` executes it on stores, where each merge visits the entries of the
second store in an order of its own. `Logs` keeps for every store the plain list
of what was recorded, and knows nothing of entries or of keys that stand once: a
merge puts the list of the second store behind that of the first.

`Step.logged` says that one step of a run does to the stores what it does to the
lists, and `Runs.logged` carries this over to whole runs. `runs_empty_logged`
assembles the results: every program runs, every lookup gives the tokens that
the list of its store has under the key, and recording in chunks and merging
the chunks in order is the same as recording everything into one store.
-/

set_option autoImplicit false

namespace ServletRoutes.Annotations

open Function (update)

/-- A step of a program, with names for the stores. -/
inductive Command (ι : Type)
  | record (store : ι) (key : Key) (value : Value)
  /-- Takes the content of a second store, which is empty afterwards. -/
  | merge (store other : ι)
  /-- Makes a store a copy of a second one. -/
  | clone (store other : ι)
  | values (store : ι) (key : Key)

/-- What a step answers. -/
inductive Answer
  /-- The number of tokens that were recorded. -/
  | appended (count : Nat)
  | tokens (tokens : List Text)
  | done
deriving DecidableEq

variable {ι : Type} [DecidableEq ι]

/-! ### Running a program -/

/-- One step on stores. -/
inductive Step : (ι → Store) → Command ι → Answer → (ι → Store) → Prop
  | record (stores : ι → Store) (store : ι) (key : Key) (value : Value) :
      Step stores (.record store key value) (.appended ((stores store).recordCounted key value).2)
        (update stores store ((stores store).recordCounted key value).1)
  | merge (stores : ι → Store) (store other : ι) {merged : Store}
      (hmerged : (update stores other .empty store).Merges (stores other) merged) :
      Step stores (.merge store other) .done (update (update stores other .empty) store merged)
  | clone (stores : ι → Store) (store other : ι) :
      Step stores (.clone store other) .done (update stores store (stores other))
  | values (stores : ι → Store) (store : ι) (key : Key) :
      Step stores (.values store key) (.tokens ((stores store).values key)) stores

/-- The steps of a program one after the other, with their answers. -/
inductive Runs : (ι → Store) → List (Command ι) → List Answer → (ι → Store) → Prop
  | nil (stores : ι → Store) : Runs stores [] [] stores
  | cons {stores stores' stores'' : ι → Store} {command : Command ι} {answer : Answer}
      {program : List (Command ι)} {answers : List Answer}
      (hstep : Step stores command answer stores') (hruns : Runs stores' program answers stores'') :
      Runs stores (command :: program) (answer :: answers) stores''

/-- Every command has a step. -/
theorem exists_step (stores : ι → Store) (command : Command ι) :
    ∃ answer stores', Step stores command answer stores' := by
  cases command with
  | record store key value => exact ⟨_, _, .record stores store key value⟩
  | merge store other => exact ⟨_, _, .merge stores store other (Store.merges_merge _ _)⟩
  | clone store other => exact ⟨_, _, .clone stores store other⟩
  | values store key => exact ⟨_, _, .values stores store key⟩

/-- Every program runs. -/
theorem exists_runs (stores : ι → Store) (program : List (Command ι)) :
    ∃ answers stores', Runs stores program answers stores' := by
  induction program generalizing stores with
  | nil => exact ⟨_, _, .nil stores⟩
  | cons command program ih =>
    obtain ⟨answer, stores', hstep⟩ := exists_step stores command
    obtain ⟨answers, stores'', hruns⟩ := ih stores'
    exact ⟨_, _, .cons hstep hruns⟩

/-! ### Logging a program -/

/-- What was recorded into each store, in order. -/
abbrev Logs (ι : Type) : Type := ι → List (Key × Value)

namespace Logs

/-- The lists after a command. -/
def after (logs : Logs ι) : Command ι → Logs ι
  | .record store key value => update logs store (logs store ++ [(key, value)])
  | .merge store other =>
    let taken := update logs other []
    update taken store (taken store ++ logs other)
  | .clone store other => update logs store (logs other)
  | .values _ _ => logs

/-- The answer of a command. Recording answers by how much the tokens under the key have grown. -/
def answer (logs : Logs ι) : Command ι → Answer
  | .record store key value =>
    .appended ((Store.tokensIn (logs store ++ [(key, value)]) key).length -
      (Store.tokensIn (logs store) key).length)
  | .merge _ _ | .clone _ _ => .done
  | .values store key => .tokens (Store.tokensIn (logs store) key)

/-- The answers of a program. -/
def answers (logs : Logs ι) : List (Command ι) → List Answer
  | [] => []
  | command :: program => logs.answer command :: (logs.after command).answers program

end Logs

/-- Each store has under every key the tokens of the values that its list has under the key. -/
def Logged (stores : ι → Store) (logs : Logs ι) : Prop :=
  ∀ store key, (stores store).values key = Store.tokensIn (logs store) key

/-- One store and its list are replaced. -/
theorem Logged.update {stores : ι → Store} {logs : Logs ι} (h : Logged stores logs) (i : ι)
    {s : Store} {log : List (Key × Value)} (hs : ∀ key, s.values key = Store.tokensIn log key) :
    Logged (Function.update stores i s) (Function.update logs i log) := by
  intro store key
  by_cases hi : store = i
  · subst hi
    rw [Function.update_self, Function.update_self, hs]
  · rw [Function.update_of_ne hi, Function.update_of_ne hi, h]

/-- One step: it answers what the lists say, and the stores go on as the lists do. -/
theorem Step.logged {stores stores' : ι → Store} {command : Command ι} {answer : Answer}
    {logs : Logs ι} (h : Step stores command answer stores') (hlogged : Logged stores logs) :
    answer = logs.answer command ∧ Logged stores' (logs.after command) := by
  cases h with
  | record store key value =>
    -- the list has the tokens of the value under its own key only
    have hgrown (k : Key) : Store.tokensIn (logs store ++ [(key, value)]) k =
        Store.tokensIn (logs store) k ++ if key = k then value.tokens else [] := by
      rw [Store.tokensIn_append]
      simp [Store.tokensIn]
    rw [Store.recordCounted_eq]
    refine ⟨?_, hlogged.update store fun k => ?_⟩
    · rw [Logs.answer, hgrown, if_pos rfl, List.length_append, Nat.add_sub_cancel_left]
    · rw [Store.values_record, hlogged, hgrown]
  | merge store other hmerged =>
    -- the second store is taken away before its tokens are added
    have htaken : Logged (Function.update stores other .empty) (Function.update logs other []) :=
      hlogged.update other fun _ => rfl
    refine ⟨rfl, htaken.update store fun k => ?_⟩
    rw [hmerged.values_eq, htaken, hlogged, Store.tokensIn_append]
  | clone store other => exact ⟨rfl, hlogged.update store (hlogged other)⟩
  | values store key =>
    exact ⟨by rw [Logs.answer, hlogged], hlogged⟩

/-- A whole run: the lists alone tell all answers and what the stores hold in the end. -/
theorem Runs.logged {stores stores' : ι → Store} {program : List (Command ι)}
    {answers : List Answer} {logs : Logs ι} (h : Runs stores program answers stores')
    (hlogged : Logged stores logs) :
    answers = logs.answers program ∧ Logged stores' (program.foldl Logs.after logs) := by
  -- on the steps of the run, each of which hands on stores that agree with the lists
  induction h generalizing logs with
  | nil stores => exact ⟨rfl, hlogged⟩
  | cons hstep _ ih =>
    obtain ⟨hanswer, hlogged⟩ := hstep.logged hlogged
    obtain ⟨hanswers, hlogged⟩ := ih hlogged
    exact ⟨by rw [Logs.answers, hanswer, hanswers], hlogged⟩

/-! ### Recording in chunks -/

/-- Several stores merged into one, one after the other. -/
inductive MergesAll : Store → List Store → Store → Prop
  | nil (s : Store) : MergesAll s [] s
  | cons {s other merged final : Store} {others : List Store} (hmerged : s.Merges other merged)
      (hrest : MergesAll merged others final) : MergesAll s (other :: others) final

/-- The tokens of the stores follow each other in the order of the merges. -/
theorem MergesAll.values_eq {s final : Store} {others : List Store} (h : MergesAll s others final)
    (key : Key) : final.values key = s.values key ++ others.flatMap (·.values key) := by
  induction h with
  | nil s => rw [List.flatMap_nil, List.append_nil]
  | cons hmerged _ ih => rw [ih, hmerged.values_eq, List.flatMap_cons, List.append_assoc]

/-- Stores can be merged one after the other. -/
theorem exists_mergesAll (s : Store) (others : List Store) : ∃ final, MergesAll s others final := by
  induction others generalizing s with
  | nil => exact ⟨s, .nil s⟩
  | cons other others ih =>
    obtain ⟨final, hrest⟩ := ih (s.merge other)
    exact ⟨final, .cons (Store.merges_merge s other) hrest⟩

/-- Records values one after the other. -/
def Store.recordAll (s : Store) (recorded : List (Key × Value)) : Store :=
  recorded.foldl (fun s r => s.record r.1 r.2) s

/-- Recording in chunks, each into a store of its own, and merging these in order gives the entries of
recording everything into one store. -/
theorem MergesAll.perm_recordAll {s final : Store} {chunks : List (List (Key × Value))}
    (h : MergesAll s (chunks.map (Store.recordAll .empty)) final) :
    final.entries.Perm (s.recordAll chunks.flatten).entries := by
  rw [Store.perm_entries_iff]
  intro key
  have hchunk (chunk : List (Key × Value)) :
      (Store.recordAll .empty chunk).values key = Store.tokensIn chunk key :=
    Store.values_foldl_record chunk .empty key
  calc final.values key
      = s.values key ++ (chunks.map (Store.recordAll .empty)).flatMap (·.values key) :=
        h.values_eq key
    _ = s.values key ++ chunks.flatMap (Store.tokensIn · key) := by
        simp only [List.flatMap_map, hchunk]
    _ = s.values key ++ Store.tokensIn chunks.flatten key := by
        rw [List.flatten_eq_flatMap, Store.tokensIn, List.flatMap_assoc]
        rfl
    _ = (s.recordAll chunks.flatten).values key := (Store.values_foldl_record _ s key).symm

/-! ### Programs on empty stores -/

/-- What a store says about its keys: none stands in it twice or without tokens, the size is the number
of those with tokens, and the store is empty when no lookup finds any. -/
structure Store.Counted (s : Store) : Prop where
  distinct : (s.entries.map (·.1)).Nodup
  nonempty : ∀ e ∈ s.entries, e.2 ≠ []
  size : {key | s.values key ≠ []}.encard = s.size
  isEmpty : s.isEmpty = true ↔ ∀ key, s.values key = []

/-- The count of each store is right. -/
theorem Store.counted (s : Store) : s.Counted :=
  ⟨s.wellFormed.distinct, s.wellFormed.nonempty, size_eq_encard, isEmpty_iff⟩

/-- Every program runs on empty stores, and each of its runs gives the answers and the tokens that the
lists of what was recorded tell, with every key counted that has tokens. Merges can visit the entries in
any order. The tokens of a value are its scalars, depth first and from left to right, and unsupported
items change none of them. Recording in chunks and merging these in order is recording everything. -/
theorem runs_empty_logged (program : List (Command ι)) :
    (∃ answers stores, Runs (fun _ => .empty) program answers stores) ∧
    (∀ answers stores, Runs (fun _ => .empty) program answers stores →
      answers = Logs.answers (fun _ => []) program ∧
      Logged stores (program.foldl Logs.after fun _ => []) ∧
      ∀ store, (stores store).Counted) ∧
    (∀ (s other : Store) (visited : List (Key × List Text)), visited.Perm other.entries →
      ∃ merged : Store, merged.entries = Store.extendAll visited s.entries) ∧
    (∀ value : Value, value.DepthFirst value.tokens ∧ value.supported.tokens = value.tokens) ∧
    ∀ (s : Store) (chunks : List (List (Key × Value))),
      (∃ final, MergesAll s (chunks.map (Store.recordAll .empty)) final) ∧
      ∀ final, MergesAll s (chunks.map (Store.recordAll .empty)) final →
        final.entries.Perm (s.recordAll chunks.flatten).entries ∧
        ∀ key, final.values key = (s.recordAll chunks.flatten).values key := by
  refine ⟨exists_runs _ program, fun answers stores hruns => ?_,
    fun s other visited hvisited => s.exists_entries_eq other hvisited,
    fun value => ⟨value.tokens_depthFirst, value.tokens_supported⟩, fun s chunks =>
    ⟨exists_mergesAll s _, fun final hmerges => ?_⟩⟩
  · have hempty : Logged (fun _ : ι => Store.empty) fun _ => [] := fun _ _ => rfl
    obtain ⟨hanswers, hlogged⟩ := hruns.logged hempty
    exact ⟨hanswers, hlogged, fun store => (stores store).counted⟩
  · exact ⟨hmerges.perm_recordAll, Store.perm_entries_iff.mp hmerges.perm_recordAll⟩

/-- Records into one store, copies it, records into the copy, and merges the copy back. -/
def copyAndMerge (key : Key) : List (Command Bool) :=
  [.record false key (.array [.text "/a".toList, .unsupported "1".toList, .array [.boolean true]]),
    .clone true false, .record true key (.text "/b".toList), .merge false true, .values false key]

/-- The copy keeps what was recorded before, so the merge brings it a second time. -/
theorem runs_empty_logged_copyAndMerge :
    ∃ answers stores, Runs (fun _ => .empty) (copyAndMerge ⟨"a.A".toList, "r".toList⟩) answers stores ∧
      answers = [.appended 2, .done, .appended 1, .done,
        .tokens ["/a".toList, "true".toList, "/a".toList, "true".toList, "/b".toList]] ∧
      ∀ key, (stores true).values key = [] := by
  obtain ⟨⟨answers, stores, hruns⟩, hall, -⟩ :=
    runs_empty_logged (copyAndMerge ⟨"a.A".toList, "r".toList⟩)
  obtain ⟨hanswers, hlogged, -⟩ := hall answers stores hruns
  exact ⟨answers, stores, hruns, hanswers.trans (by decide +kernel), hlogged true⟩

end ServletRoutes.Annotations
