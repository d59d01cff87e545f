import Mathlib.Data.List.Sort
import TreeKeeper.Proofs.Search.Commands

/-
  What a search does to delete its matches.  For each store
  it removes all matches but the root, one after the other,
  and what lies below another match comes before it.  What
  cannot be removed is counted, and the others are removed
  all the same.

  Key definitions include:
    * `Search.Attempt`
    * `Search.IsBelow`
    * `Search.Attempts`
    * `Search.Deletes`

  Main declarations:
    * `Search.pairwise_deepestFirst`
    * `Search.attempts_removeEntries`
    * `Search.deletes_deleteMatches`
    * `Search.exists_deletes_of_run`
-/

------------------------------------------------------------
-- Order
------------------------------------------------------------

namespace TreeKeeper

namespace Search

/- Whether a path continues another one behind a slash. -/
def IsBelow (above path : String) : Prop :=
  ∃ rest, path = above ++ "/" ++ rest

theorem depth_lt_of_isBelow
    {entry other : Entry}
    (hEntry : entry.path ≠ "/")
    (hOther : other.path ≠ "/")
    (hBelow : IsBelow entry.path other.path) :
    entry.depth < other.depth := by
  rcases hBelow with ⟨rest, hPath⟩
  unfold Entry.depth
  rw [if_neg hEntry, if_neg hOther, hPath,
    String.toList_append, String.toList_append,
    List.count_append, List.count_append]
  have hSlash : ("/" : String).toList.count '/' = 1 := rfl
  omega

/- The entries other than the root of their store. -/
def exceptRoot (entries : List Entry) : List Entry :=
  entries.filter fun entry => entry.path ≠ "/"

theorem perm_deepestFirst
    (entries : List Entry) :
    (deepestFirst entries).Perm entries :=
  List.mergeSort_perm entries _

/- The deepest entries come first. -/
theorem pairwise_depth_deepestFirst
    (entries : List Entry) :
    (deepestFirst entries).Pairwise
      fun entry later => later.depth ≤ entry.depth := by
  have hTrans :
      IsTrans Entry fun entry later =>
        later.depth ≤ entry.depth :=
    ⟨fun _ _ _ hFirst hSecond => Nat.le_trans hSecond hFirst⟩
  have hTotal :
      Std.Total fun entry later : Entry =>
        later.depth ≤ entry.depth :=
    ⟨fun entry later => Nat.le_total later.depth entry.depth⟩
  exact List.pairwise_mergeSort' _ entries

/- No entry comes before another one that lies below it. -/
theorem pairwise_deepestFirst
    (entries : List Entry) :
    (exceptRoot (deepestFirst entries)).Pairwise
      fun entry later =>
        ¬IsBelow entry.path later.path := by
  unfold exceptRoot
  refine ((pairwise_depth_deepestFirst entries).filter
    _).imp_of_mem ?_
  intro entry later hEntry hLater hDepth hBelow
  have hFirst := (List.mem_filter.1 hEntry).2
  have hSecond := (List.mem_filter.1 hLater).2
  have hLess :=
    depth_lt_of_isBelow (by simpa using hFirst)
      (by simpa using hSecond) hBelow
  omega

------------------------------------------------------------
-- Attempts
------------------------------------------------------------

variable {β κ : Type}
variable [Store β κ]

/- A removal that a store is asked for, as it is then. -/
structure Attempt (β : Type) where
  entry : Entry
  store : β
  world : World

/- Whether the store removes the entry. -/
def Attempt.success (attempt : Attempt β) : Bool :=
  succeeded
    (Store.remove attempt.store attempt.entry attempt.world).1

/-
  Whether removals at a place were attempted in an order, and
  those that failed were counted, each of them once.
-/
structure Attempts
    (place : Nat)
    (attempts : List (Attempt β))
    (before after : Search β) : Prop where
  events :
    after.events =
      before.events ++
        attempts.map fun attempt =>
          .called place (.remove attempt.entry)
            attempt.success
  failures :
    after.failures =
      before.failures +
        (attempts.filter fun attempt =>
          !attempt.success).length

theorem attempts_removeEntry
    (search : Search β)
    (place : Nat)
    (store : β)
    (entry : Entry) :
    Attempts place [⟨entry, store, search.world⟩] search
      (search.removeEntry place store entry).2 := by
  have hSuccess :
      Attempt.success ⟨entry, store, search.world⟩ =
        succeeded
          (Store.remove store entry search.world).1 := rfl
  refine ⟨?_, ?_⟩
  all_goals
    simp only [List.map_cons, List.map_nil, List.filter_cons,
      List.filter_nil, hSuccess]
    unfold removeEntry
    generalize Store.remove store entry search.world = removal
    rcases removal with ⟨result, later, world⟩
    cases result with
    | ok done => rfl
    | error fault => rfl

/- Removing entries leaves out the root by itself. -/
theorem removeEntries_exceptRoot
    (place : Nat)
    (store : β)
    (entries : List Entry)
    (search : Search β) :
    removeEntries place store (exceptRoot entries) search =
      removeEntries place store entries search := by
  induction entries generalizing store search with
  | nil => rfl
  | cons entry rest ih =>
      unfold exceptRoot
      by_cases hRoot : entry.path = "/"
      · rw [List.filter_cons_of_neg (by simp [hRoot]),
          removeEntries, if_pos hRoot]
        exact ih store search
      · rw [List.filter_cons_of_pos (by simp [hRoot]),
          removeEntries, removeEntries, if_neg hRoot,
          if_neg hRoot]
        exact ih _ _

/- Every entry but the root is attempted, in order. -/
theorem attempts_removeEntries
    (place : Nat)
    (store : β)
    (entries : List Entry)
    (search : Search β) :
    ∃ attempts,
      attempts.map Attempt.entry = exceptRoot entries ∧
      Attempts place attempts search
        (removeEntries place store entries search) := by
  induction entries generalizing store search with
  | nil => exact ⟨[], rfl, (List.append_nil _).symm, rfl⟩
  | cons entry rest ih =>
      unfold removeEntries exceptRoot
      by_cases hRoot : entry.path = "/"
      · rw [if_pos hRoot,
          List.filter_cons_of_neg (by simp [hRoot])]
        exact ih store search
      · rw [if_neg hRoot,
          List.filter_cons_of_pos (by simp [hRoot])]
        have hFirst :=
          attempts_removeEntry search place store entry
        generalize search.removeEntry place store entry =
          removal at hFirst ⊢
        rcases removal with ⟨later, between⟩
        rcases ih later between with
          ⟨attempts, hEntries, hRest⟩
        refine ⟨⟨entry, store, search.world⟩ :: attempts,
          congrArg (entry :: ·) hEntries, ?_, ?_⟩
        · rw [hRest.events, hFirst.events, List.append_assoc]
          rfl
        · rw [hRest.failures, hFirst.failures, Nat.add_assoc,
            ← List.length_append, ← List.filter_append]
          rfl

/-
  How the matches of stores are deleted.  All matches of a
  store but the root are attempted, whatever fails on the
  way, and none of them before one that lies below it.  The
  stores behind one whose matches cannot be read are left.
-/
inductive Deletes
    (filter : Option Filter)
    (options : QueryOptions) :
    List (β × Nat) → Search β → Option SearchFault →
      Search β → Prop
| done (search : Search β) :
    Deletes filter options [] search none search
| unread
    {store : β}
    {place : Nat}
    {rest : List (β × Nat)}
    {search after : Search β}
    {fault : StoreFault}
    (hCollect :
      search.collect place store filter options =
        (.error fault, after)) :
    Deletes filter options ((store, place) :: rest) search
      (some (.store fault)) after
| attempted
    {store : β}
    {place : Nat}
    {rest : List (β × Nat)}
    {search between next after : Search β}
    {matched : List Entry}
    {attempts : List (Attempt β)}
    {fault : Option SearchFault}
    (hCollect :
      search.collect place store filter options =
        (.ok matched, between))
    (hAttempts : Attempts place attempts between next)
    (hAll :
      (attempts.map Attempt.entry).Perm (exceptRoot matched))
    (hOrder :
      attempts.Pairwise fun attempt later =>
        ¬IsBelow attempt.entry.path later.entry.path)
    (hRest : Deletes filter options rest next fault after) :
    Deletes filter options ((store, place) :: rest) search
      fault after

theorem deletes_deleteMatches
    (filter : Option Filter)
    (options : QueryOptions)
    (stores : List (β × Nat))
    (search : Search β) :
    Deletes filter options stores search
      (deleteMatches filter options stores search).1
      (deleteMatches filter options stores search).2 := by
  induction stores generalizing search with
  | nil => exact .done search
  | cons first rest ih =>
      rcases first with ⟨store, place⟩
      unfold deleteMatches
      cases hCollect :
          search.collect place store filter options with
      | mk result between =>
          cases result with
          | error fault => exact .unread hCollect
          | ok matched =>
              rcases attempts_removeEntries place store
                  (deepestFirst matched) between with
                ⟨attempts, hEntries, hAttempts⟩
              have hOrder := pairwise_deepestFirst matched
              rw [← hEntries, List.pairwise_map] at hOrder
              have hAll :
                  (attempts.map Attempt.entry).Perm
                    (exceptRoot matched) := by
                rw [hEntries]
                exact (perm_deepestFirst matched).filter _
              exact .attempted hCollect hAttempts hAll hOrder
                (ih _)

------------------------------------------------------------
-- Commands
------------------------------------------------------------

/- A command that deletes what an expression matches. -/
theorem exists_deletes_of_run
    {search : Search β}
    {words : List String}
    {filter : Option Filter}
    {sorts : List SortKey}
    (hAction :
      (registry search.stores).classify "-delete" = .action)
    (hWords :
      Expression.compile (registry search.stores) search.now
          words =
        .ok (filter, sorts)) :
    ∃ fault between,
      deleteMatches filter { sorts := sorts }
          search.stores.zipIdx search =
        (fault, between) ∧
      run (words ++ ["-delete"]) search =
        fault.elim between.finish
          fun fault => (some fault, between) := by
  have hClause :
      Acts (registry search.stores) search.now
        (words ++ ["-delete"])
        ⟨filter, sorts, .delete⟩ :=
    .intro (Expression.sentence_of_compile hWords)
      (.intro hAction rfl rfl) rfl
  have hPlan :
      plan (registry search.stores) search.now
          (words ++ ["-delete"]) =
        { deeds := [⟨filter, sorts, .delete⟩] } := by
    have hActs := (planIn_of_acts hClause {} []).2
    rw [List.append_nil, planBehind_nil] at hActs
    exact hActs
  rw [run_eq_perform, hPlan]
  unfold Plan.perform performAll Deed.perform execute
  dsimp only [SearchAction.isQuit]
  generalize deleteMatches filter { sorts := sorts }
    search.stores.zipIdx search = deleted
  rcases deleted with ⟨fault, between⟩
  refine ⟨fault, between, rfl, ?_⟩
  cases fault with
  | none => rfl
  | some fault => rfl

end Search

end TreeKeeper
