import Mathlib.Data.List.Perm.Basic
import TreeKeeper.Proofs.Search.Deleting
import TreeKeeper.Proofs.Store.Clearing
import TreeKeeper.Proofs.Store.Files
import TreeKeeper.Proofs.Store.Tours

/-
  Searches that delete what they match below a directory.  If
  whatever lies below a match is a match, each directory is
  empty when its turn comes, so all matches but the root are
  removed and everything else stays.

  Key definitions include:
    * `FileTree.IsMatch`
    * `FileTree.MatchesBelow`
    * `FileTree.Remaining`

  Main declarations:
    * `Search.collectFrom_of_promises`
    * `Search.collect_of_promises`
    * `Search.exists_collect`
    * `Search.removeEntries_clears`
    * `Search.exists_run_delete`
    * `Search.run_delete_clears`
-/

------------------------------------------------------------
-- Collecting
------------------------------------------------------------

namespace TreeKeeper

namespace Search

open DirectoryStore

variable {store : DirectoryStore}
variable {search : Search DirectoryStore}

/- Results that promise entries and no fault are collected. -/
theorem collectFrom_of_promises
    {files : FileTree → Location → Prop}
    {results : Results Walk}
    {entries : List Entry}
    {steps : Nat}
    (hPromises : results.Promises files entries none)
    (hRemaining : results.remaining = none)
    (hProjection : results.projection = {})
    (hWorld :
      files search.world.tree search.world.directory)
    (hSteps : entries.length < steps) :
    ∃ world,
      collectFrom steps results search =
        (.ok entries, search.withWorld world) ∧
      world.SameFiles search.world := by
  induction steps generalizing results search entries with
  | zero => exact nomatch hSteps
  | succ steps ih =>
      have hFetch :
          Store.fetch DirectoryStore results search.world =
            results.fetch search.world := rfl
      have hSame :=
        Results.sameFiles_fetch Walk.keepsFiles results
          search.world
      have hDelivers :=
        Results.fetch_of_promises hPromises
          (by simp [hRemaining]) hWorld
      unfold collectFrom
      rw [hFetch]
      generalize results.fetch search.world = fetched
        at hDelivers hSame ⊢
      rcases fetched with ⟨fetched, later, world⟩
      cases hDelivers with
      | ending hDone => exact ⟨world, rfl, hSame⟩
      | @entry entry more _ _ hMore hLess hKeeps =>
          rw [hRemaining] at hLess
          have hFiles :
              files (search.withWorld world).world.tree
                (search.withWorld world).world.directory := by
            have hTree := hSame.tree
            have hDirectory := hSame.directory
            dsimp only at hTree hDirectory
            unfold withWorld
            rw [hTree, hDirectory]
            exact hWorld
          rcases ih hMore hLess (hKeeps.trans hProjection)
              hFiles (Nat.lt_of_succ_lt_succ hSteps) with
            ⟨after, hRest, hAfter⟩
          refine ⟨after, ?_, hAfter.trans hSame⟩
          dsimp only
          rw [hRest, hProjection]
          rfl

/- So are the matches of a store that answers with them. -/
theorem collect_of_promises
    {files : FileTree → Location → Prop}
    {results : Results Walk}
    {entries : List Entry}
    {filter : Option Filter}
    {options : QueryOptions}
    {world : World}
    (hQuery :
      store.query filter options {} search.world =
        (.ok results, world))
    (hPromises : results.Promises files entries none)
    (hRemaining : results.remaining = none)
    (hProjection : results.projection = {})
    (hWorld : files world.tree world.directory)
    (place : Nat) :
    ∃ after event,
      search.collect place store filter options =
        (.ok entries,
          (search.withWorld after).record event) ∧
      after.SameFiles world := by
  generalize hEvent :
    Event.called place (.query filter options) true = event
  have hCollect :
      search.collect place store filter options =
        collectFrom
          (Store.bound DirectoryStore results world + 1)
          results
          ((search.withWorld world).record event) := by
    have hStore :
        Store.query store filter options {} search.world =
          (.ok results, world) := hQuery
    unfold collect Search.query
    rw [hStore, ← hEvent]
    rfl
  have hThere :
      files ((search.withWorld world).record event).world.tree
        ((search.withWorld world).record
          event).world.directory := hWorld
  have hBound := hPromises.length_le_bound hWorld
  rcases collectFrom_of_promises hPromises hRemaining
      hProjection hThere (Nat.lt_succ_of_le hBound) with
    ⟨after, hCollected, hAfter⟩
  exact ⟨after, event, hCollect.trans hCollected, hAfter⟩

/-
  The matches of a store that serves a tree: what the filter
  accepts of a tour, in the order that is asked for.
-/
theorem exists_collect
    {root base : Location}
    {object : FileObject}
    (hServes :
      store.Serves search.world.tree search.world.directory
        root base object)
    (place : Nat)
    (filter : Option Filter)
    (sorts : List SortKey) :
    ∃ tour world event,
      search.world.tree.IsTour base tour ∧
      search.collect place store filter { sorts := sorts } =
        (.ok (Entry.sortBy sorts
            ((Walk.entriesOf tour).filter
              (Filter.admits filter))),
          (search.withWorld world).record event) ∧
      world.SameFiles search.world := by
  rcases Walk.exists_tour_of_start hServes with
    ⟨tour, hTour, hGives⟩
  have hPromises :=
    Results.promises_start hGives filter { sorts := sorts } {}
      ⟨rfl, rfl⟩
  rw [Readings.legible_ofEntries, Readings.fault?_ofEntries,
    List.drop_zero] at hPromises
  rcases Results.start_asks (Walk.start (pathOf root) object)
      filter { sorts := sorts } {} search.world with
    ⟨hRemaining, hProjection⟩
  have hSame :=
    Results.sameFiles_start Walk.keepsFiles
      (Walk.start (pathOf root) object) filter
      { sorts := sorts } {} search.world
  rcases collect_of_promises
      (hServes.query filter { sorts := sorts } {}) hPromises
      hRemaining hProjection ⟨hSame.tree, hSame.directory⟩
      place with
    ⟨world, event, hCollect, hAfter⟩
  exact ⟨tour, world, event, hTour, hCollect,
    hAfter.trans hSame⟩

end Search

------------------------------------------------------------
-- Matches
------------------------------------------------------------

namespace FileTree

open DirectoryStore

variable {tree : FileTree}
variable {base : Location}
variable {places : Location → Prop}
variable {gone : List Location}
variable {first : Location × FileObject}
variable {rest : List (Location × FileObject)}

/- Whether a filter accepts an object below a location. -/
def IsMatch
    (tree : FileTree)
    (base : Location)
    (filter : Option Filter)
    (location : Location) : Prop :=
  ∃ names found,
    names ≠ [] ∧ location = base ++ names ∧
      tree.find? location = some found ∧
      Filter.admits filter (found.entry (pathOf names)) = true

/-
  Whether a filter that accepts an object at or below a
  location accepts all objects below that one as well.
-/
def MatchesBelow
    (tree : FileTree)
    (base : Location)
    (filter : Option Filter) : Prop :=
  ∀ names more found below,
    tree.object? (base ++ names) = some found →
    Filter.admits filter (found.entry (pathOf names)) = true →
    more ≠ [] →
    tree.find? (base ++ (names ++ more)) = some below →
      Filter.admits filter
        (below.entry (pathOf (names ++ more))) = true

/- Without a filter everything matches. -/
theorem matchesBelow_none
    (tree : FileTree)
    (base : Location) : tree.MatchesBelow base none :=
  fun _ _ _ _ _ _ _ _ => rfl

/-
  What is to be removed below a location when some locations
  are gone.  Whatever is in a directory comes before it.
-/
structure Remaining
    (tree : FileTree)
    (base : Location)
    (places : Location → Prop)
    (gone : List Location)
    (todo : List (Location × FileObject)) : Prop where
  all :
    ∀ location, places location ↔
      location ∈ gone ∨ ∃ v ∈ todo, base ++ v.1 = location
  there :
    ∀ v ∈ todo,
      v.1 ≠ [] ∧ tree.find? (base ++ v.1) = some v.2
  left : ∀ v ∈ todo, base ++ v.1 ∉ gone
  distinct : todo.Pairwise fun v later => v.1 ≠ later.1
  ordered :
    todo.Pairwise fun v later =>
      ∀ name, later.1 ≠ v.1 ++ [name]
  closed :
    ∀ v ∈ todo, ∀ name child,
      tree.find? (base ++ v.1 ++ [name]) = some child →
        places (base ++ v.1 ++ [name])

/- All that the first of them holds is gone. -/
theorem Remaining.cleared
    (hRemaining :
      tree.Remaining base places gone (first :: rest))
    (name : String)
    (child : FileObject)
    (hChild :
      tree.find? (base ++ first.1 ++ [name]) = some child) :
    base ++ first.1 ++ [name] ∈ gone := by
  have hPlace :=
    hRemaining.closed first List.mem_cons_self name child
      hChild
  refine ((hRemaining.all _).1 hPlace).resolve_right ?_
  rintro ⟨v, hMember, hLocation⟩
  rw [List.append_assoc] at hLocation
  have hNames := List.append_cancel_left hLocation
  rcases List.mem_cons.1 hMember with rfl | hLater
  · exact absurd hNames (by simp)
  · exact (List.pairwise_cons.1 hRemaining.ordered).1 v hLater
      name hNames

/- The first of them joins what is gone. -/
theorem Remaining.step
    (hRemaining :
      tree.Remaining base places gone (first :: rest)) :
    tree.Remaining base places ((base ++ first.1) :: gone)
      rest := by
  rcases hRemaining with
    ⟨hAll, hThere, hLeft, hDistinct, hOrdered, hClosed⟩
  rw [List.pairwise_cons] at hDistinct hOrdered
  refine ⟨?_, fun v h => hThere v (List.mem_cons_of_mem _ h),
    ?_, hDistinct.2, hOrdered.2,
    fun v h => hClosed v (List.mem_cons_of_mem _ h)⟩
  · intro location
    rw [hAll]
    simp only [List.mem_cons, exists_eq_or_imp]
    constructor
    · rintro (hGone | hFirst | hLater)
      · exact .inl (.inr hGone)
      · exact .inl (.inl hFirst.symm)
      · exact .inr hLater
    · rintro ((hFirst | hGone) | hLater)
      · exact .inr (.inl hFirst.symm)
      · exact .inl hGone
      · exact .inr (.inr hLater)
  · intro v hMember hGone
    rcases List.mem_cons.1 hGone with hFirst | hOther
    · exact hDistinct.1 v hMember
        (List.append_cancel_left hFirst).symm
    · exact hLeft v (List.mem_cons_of_mem _ hMember) hOther

end FileTree

------------------------------------------------------------
-- Removing
------------------------------------------------------------

namespace Search

open DirectoryStore

variable {store : DirectoryStore}
variable {search : Search DirectoryStore}
variable {tree : FileTree}
variable {root base names : Location}
variable {object : FileObject}
variable {filter : Option Filter}

/- Only the root of a store has the path of the root. -/
theorem pathOf_eq_slash_iff
    (hNamed : names.IsNamed) :
    pathOf names = "/" ↔ names = [] := by
  constructor
  · exact fun hPath => pathOf_injective hNamed .nil hPath
  · rintro rfl
    rfl

/- What is in a directory continues its path. -/
theorem isBelow_pathOf
    (hSome : names ≠ [])
    (name : String) :
    IsBelow (pathOf names) (pathOf (names ++ [name])) := by
  refine ⟨name, ?_⟩
  apply String.toList_injective
  unfold pathOf
  rw [String.toList_append, String.toList_append,
    Path.toList_ofNames, Path.toList_ofNames, List.map_append,
    Path.joinWith_append (by simp),
    ← Path.joinWith_append_slash (by simpa using hSome)]
  simp [Text.joinWith]

/-
  What remains is removed without a failure, and all else
  stays.  The induction is on what remains.
-/
theorem removeEntries_clears
    {places : Location → Prop}
    {gone : List Location}
    {todo : List (Location × FileObject)}
    (hServes :
      store.Serves tree search.world.directory root base
        object)
    (hSteady :
      store.IsSteady tree search.world.directory places)
    (hWithout : tree.IsWithout search.world.tree gone)
    (hRemaining : tree.Remaining base places gone todo)
    (place : Nat) :
    ∃ last,
      tree.IsWithout
        (removeEntries place store (Walk.entriesOf todo)
          search).world.tree last ∧
      (∀ location, location ∈ last ↔ places location) ∧
      (removeEntries place store (Walk.entriesOf todo)
          search).failures = search.failures := by
  induction todo generalizing search gone with
  | nil =>
      refine ⟨gone, hWithout, fun location => ?_, rfl⟩
      rw [hRemaining.all]
      simp
  | cons v rest ih =>
      rcases v with ⟨names, found⟩
      have hThere :=
        hRemaining.there (names, found) List.mem_cons_self
      have hNamed : names.IsNamed :=
        hServes.named names found hThere.2
      have hPath : (found.entry (pathOf names)).path ≠ "/" :=
        fun h =>
          hThere.1 ((pathOf_eq_slash_iff hNamed).1 h)
      rcases hServes.exists_remove hSteady hWithout
          (fun location hMember =>
            (hRemaining.all location).2 (.inl hMember))
          hThere.1 hThere.2
          (hRemaining.left (names, found) List.mem_cons_self)
          hRemaining.cleared with
        ⟨later, hRemove, hLater⟩
      have hStore :
          Store.remove store (found.entry (pathOf names))
              search.world =
            (.ok (), store, search.world.withTree later) := by
        have hUnfold :
            Store.remove store (found.entry (pathOf names))
                search.world =
              ((store.remove (found.entry (pathOf names))
                  search.world).1, store,
                (store.remove (found.entry (pathOf names))
                  search.world).2) := rfl
        rw [hUnfold, hRemove]
      have hEntries :
          Walk.entriesOf ((names, found) :: rest) =
            found.entry (pathOf names) ::
              Walk.entriesOf rest := rfl
      rw [hEntries, removeEntries, if_neg hPath]
      unfold removeEntry
      rw [hStore]
      exact ih hServes hSteady hLater hRemaining.step

/- Whether an object of a tour is to be removed. -/
def isWanted
    (filter : Option Filter)
    (visited : Location × FileObject) : Bool :=
  decide ((visited.2.entry (pathOf visited.1)).path ≠ "/") &&
    Filter.admits filter (visited.2.entry (pathOf visited.1))

/- The entries to be removed are those of wanted objects. -/
theorem exists_entriesOf_eq
    (filter : Option Filter)
    (sorts : List SortKey)
    (tour : List (Location × FileObject)) :
    ∃ todo,
      exceptRoot
          (deepestFirst
            (Entry.sortBy sorts
              ((Walk.entriesOf tour).filter
                (Filter.admits filter)))) =
        Walk.entriesOf todo ∧
      todo.Perm (tour.filter (isWanted filter)) := by
  generalize hMatches :
    (Walk.entriesOf tour).filter (Filter.admits filter) =
      matching
  have hSorted :=
    (perm_deepestFirst (Entry.sortBy sorts matching)).trans
      (Entry.isSortOf_sortBy sorts matching).perm
  have hPerm :
      (exceptRoot
          (deepestFirst (Entry.sortBy sorts matching))).Perm
        (Walk.entriesOf (tour.filter (isWanted filter))) := by
    refine (hSorted.filter _).trans ?_
    rw [← hMatches]
    unfold Walk.entriesOf
    rw [List.filter_filter, List.filter_map]
    exact .refl _
  exact (congrFun (congrFun (List.eq_map_comp_perm _) _)
    _).mpr hPerm

/- The wanted objects are the matches below the location. -/
theorem mem_wanted_iff
    {tour : List (Location × FileObject)}
    (hTour : tree.IsTour base tour)
    (hNamed : ∀ v ∈ tour, v.1.IsNamed)
    (v : Location × FileObject) :
    v ∈ tour.filter (isWanted filter) ↔
      v.1 ≠ [] ∧ tree.find? (base ++ v.1) = some v.2 ∧
        Filter.admits filter (v.2.entry (pathOf v.1)) =
          true := by
  unfold isWanted
  rw [List.mem_filter, Bool.and_eq_true, decide_eq_true_iff]
  constructor
  · rintro ⟨hVisited, hPath, hAdmits⟩
    have hSome : v.1 ≠ [] := fun hNil =>
      hPath
        ((pathOf_eq_slash_iff (hNamed v hVisited)).2 hNil)
    have hObject := (hTour.complete v.1 v.2).1 hVisited
    rw [FileTree.object?_append hSome] at hObject
    exact ⟨hSome, hObject, hAdmits⟩
  · rintro ⟨hSome, hFound, hAdmits⟩
    have hVisited : v ∈ tour := by
      refine (hTour.complete v.1 v.2).2 ?_
      rw [FileTree.object?_append hSome, hFound]
    exact ⟨hVisited,
      fun hPath => hSome
        ((pathOf_eq_slash_iff (hNamed v hVisited)).1 hPath),
      hAdmits⟩

/-
  Wanted objects of a tour are what is to be removed, if no
  entry comes before another one that lies below it.
-/
theorem remaining_of_perm
    {tour todo : List (Location × FileObject)}
    (hTour : tree.IsTour base tour)
    (hNamed : ∀ v ∈ tour, v.1.IsNamed)
    (hBelow : tree.MatchesBelow base filter)
    (hWanted : todo.Perm (tour.filter (isWanted filter)))
    (hOrder :
      (Walk.entriesOf todo).Pairwise fun entry later =>
        ¬IsBelow entry.path later.path) :
    tree.Remaining base (tree.IsMatch base filter) []
      todo := by
  have hMember (v : Location × FileObject) :=
    hWanted.mem_iff.trans (mem_wanted_iff hTour hNamed v)
  refine ⟨fun location => ⟨?_, ?_⟩, ?_, ?_, ?_, ?_, ?_⟩
  · rintro ⟨names, found, hSome, rfl, hFound, hAdmits⟩
    exact .inr ⟨(names, found),
      (hMember _).2 ⟨hSome, hFound, hAdmits⟩, rfl⟩
  · rintro (hGone | ⟨v, hTodo, rfl⟩)
    · exact absurd hGone List.not_mem_nil
    · rcases (hMember v).1 hTodo with ⟨hSome, hFound, hAdmits⟩
      exact ⟨v.1, v.2, hSome, rfl, hFound, hAdmits⟩
  · intro v hTodo
    rcases (hMember v).1 hTodo with ⟨hSome, hFound, -⟩
    exact ⟨hSome, hFound⟩
  · exact fun _ _ => List.not_mem_nil
  · have hSublist :
        ((tour.filter (isWanted filter)).map
          Prod.fst).Sublist (tour.map Prod.fst) :=
      List.filter_sublist.map _
    have hDistinct :=
      (hWanted.map Prod.fst).nodup_iff.2
        (hTour.distinct.sublist hSublist)
    exact List.pairwise_map.1 hDistinct
  · unfold Walk.entriesOf at hOrder
    rw [List.pairwise_map] at hOrder
    refine hOrder.imp_of_mem ?_
    rintro v ⟨names, found⟩ hFirst - hNotBelow name rfl
    exact hNotBelow
      (isBelow_pathOf ((hMember v).1 hFirst).1 name)
  · intro v hTodo name child hChild
    rcases (hMember v).1 hTodo with ⟨hSome, hFound, hAdmits⟩
    refine ⟨v.1 ++ [name], child, by simp,
      List.append_assoc _ _ _, hChild, ?_⟩
    rw [List.append_assoc] at hChild
    refine hBelow v.1 [name] v.2 child ?_ hAdmits
      (List.cons_ne_nil _ _) hChild
    rw [FileTree.object?_append hSome, hFound]

------------------------------------------------------------
-- Deleting Below A Directory
------------------------------------------------------------

/- Directories are flushed without any effect. -/
theorem flush_directories
    (stores : List (DirectoryStore × Nat))
    (search : Search DirectoryStore) :
    ∃ after,
      flush stores search = (none, after) ∧
      after.world = search.world ∧
      after.failures = search.failures := by
  induction stores generalizing search with
  | nil => exact ⟨search, rfl, rfl, rfl⟩
  | cons first rest ih =>
      rcases first with ⟨store, place⟩
      have hStore :
          Store.flush store search.world =
            (.ok (), store, search.world) := rfl
      unfold flush
      rw [hStore]
      exact ih _

/-
  All matches of a directory are removed but the root, and
  nothing else is.
-/
theorem exists_deleteMatches
    (hServes :
      store.Serves search.world.tree search.world.directory
        root base object)
    (hSteady :
      store.IsSteady search.world.tree search.world.directory
        (search.world.tree.IsMatch base filter))
    (hBelow : search.world.tree.MatchesBelow base filter)
    (sorts : List SortKey)
    (place : Nat) :
    ∃ after last,
      deleteMatches filter { sorts := sorts } [(store, place)]
        search = (none, after) ∧
      search.world.tree.IsWithout after.world.tree last ∧
      (∀ location, location ∈ last ↔
        search.world.tree.IsMatch base filter location) ∧
      after.failures = search.failures := by
  rcases exists_collect hServes place filter sorts with
    ⟨tour, world, event, hTour, hCollect, hSame⟩
  rcases exists_entriesOf_eq filter sorts tour with
    ⟨todo, hTodo, hWanted⟩
  have hOrder := pairwise_deepestFirst
    (Entry.sortBy sorts
      ((Walk.entriesOf tour).filter (Filter.admits filter)))
  rw [hTodo] at hOrder
  have hRemaining :=
    remaining_of_perm hTour
      (fun v hMember =>
        hServes.isNamed ((hTour.complete v.1 v.2).1 hMember))
      hBelow hWanted hOrder
  have hTree := hSame.tree
  have hDirectory := hSame.directory
  generalize hBetween :
    (search.withWorld world).record event = between
      at hCollect
  have hWorld : between.world = world := by
    rw [← hBetween]
    rfl
  have hFailures : between.failures = search.failures := by
    rw [← hBetween]
    rfl
  rw [← hWorld] at hTree hDirectory
  have hWithout :
      search.world.tree.IsWithout between.world.tree [] := by
    rw [hTree]
    exact .refl _
  rw [← hDirectory] at hServes hSteady
  rcases removeEntries_clears hServes hSteady hWithout
      hRemaining place with
    ⟨last, hLast, hAll, hCount⟩
  refine ⟨_, last, ?_, hLast, hAll, hCount.trans hFailures⟩
  unfold deleteMatches
  rw [hCollect, ← hTodo, removeEntries_exceptRoot]
  rfl

/- A command that deletes matches below a directory. -/
theorem exists_run_delete
    {words : List String}
    {sorts : List SortKey}
    (hServes :
      store.Serves search.world.tree search.world.directory
        root base object)
    (hStores : search.stores = [store])
    (hFailures : search.failures = 0)
    (hSteady :
      store.IsSteady search.world.tree search.world.directory
        (search.world.tree.IsMatch base filter))
    (hBelow : search.world.tree.MatchesBelow base filter)
    (hWords :
      Expression.compile (registry search.stores) search.now
          words =
        .ok (filter, sorts)) :
    ∃ after last,
      run (words ++ ["-delete"]) search =
        (if search.out.flush.1 then none
          else some (.output .full), after) ∧
      search.world.tree.IsWithout after.world.tree last ∧
      ∀ location, location ∈ last ↔
        search.world.tree.IsMatch base filter location := by
  rcases exists_deleteMatches hServes hSteady hBelow sorts 0
    with
    ⟨deleted, last, hDelete, hWithout, hLast, hCount⟩
  have hOut : deleted.out = search.out := by
    have hSteps :
        Steps SearchAction.delete.Takes search
          (deleteMatches filter { sorts := sorts } [(store, 0)]
            search).2 :=
      steps_deleteMatches filter _ trivial trivial _ search
    rw [hDelete] at hSteps
    exact hSteps.out_eq id
  have hAction :
      (registry search.stores).classify "-delete" =
        .action := by
    rw [hStores]
    rfl
  rcases exists_deletes_of_run hAction hWords with
    ⟨fault, between, hBetween, hRun⟩
  have hIndexed :
      search.stores.zipIdx = [(store, 0)] := by
    rw [hStores]
    rfl
  rw [hIndexed, hDelete] at hBetween
  cases hBetween
  rw [Option.elim_none, finish_eq, hOut] at hRun
  cases hWritten : search.out.flush.1 with
  | false =>
      rw [hWritten] at hRun
      exact ⟨_, last, hRun, hWithout, hLast⟩
  | true =>
      rw [hWritten] at hRun
      rcases flush_directories deleted.stores.zipIdx
          { deleted with out := search.out.flush.2 } with
        ⟨after, hFlush, hWorld, hSame⟩
      have hNone : ¬0 < after.failures := by
        rw [hSame, hCount, hFailures]
        exact Nat.lt_irrefl 0
      refine ⟨after.withWorld
        (after.world.info "find completed"), last, ?_, ?_,
        hLast⟩
      · rw [hRun, if_pos rfl, if_pos rfl]
        unfold finishStores
        rw [hFlush]
        dsimp only
        rw [if_neg hNone]
      · rw [← hWorld] at hWithout
        exact hWithout

/-
  How a search deletes what an expression matches.  The
  matches of each store are attempted from the deepest to the
  highest, whatever fails on the way.  Below the root of a
  directory store, where whatever lies below a match is a
  match and no match is on the way to the root, all matches
  but the root are removed and everything else stays, and
  only output from before can keep it from succeeding.
-/
theorem run_delete_clears :
    (∀ {β κ : Type} [Store β κ] (search : Search β),
      (∀ filter options stores,
        Deletes filter options stores search
          (deleteMatches filter options stores search).1
          (deleteMatches filter options stores search).2) ∧
      ∀ words filter sorts,
        (registry search.stores).classify "-delete" =
          .action →
        Expression.compile (registry search.stores)
            search.now words =
          .ok (filter, sorts) →
        ∃ fault between,
          Deletes filter { sorts := sorts }
            search.stores.zipIdx search fault between ∧
          run (words ++ ["-delete"]) search =
            fault.elim between.finish
              fun fault => (some fault, between)) ∧
    ∀ (store : DirectoryStore) (path : String)
        (opened : World) (search : Search DirectoryStore)
        (base : Location) (object : FileObject)
        (words : List String) (filter : Option Filter)
        (sorts : List SortKey),
      DirectoryStore.open path opened = .ok store →
      search.stores = [store] →
      search.failures = 0 →
      search.world.tree.objectAt false search.world.directory
          store.root =
        .ok (base, object) →
      (∀ names found,
        search.world.tree.find? (base ++ names) =
            some found →
          Location.IsNamed names) →
      (∀ names found,
        search.world.tree.object? (base ++ names) =
            some found →
          (search.world.tree.look search.world.directory
            (store.pathBelow names)).isOk = true) →
      store.IsSteady search.world.tree search.world.directory
        (search.world.tree.IsMatch base filter) →
      search.world.tree.MatchesBelow base filter →
      Expression.compile (registry [store]) search.now
          words =
        .ok (filter, sorts) →
      ∃ after,
        run (words ++ ["-delete"]) search =
          (if search.out.flush.1 then none
            else some (.output .full), after) ∧
        ∀ location found,
          after.world.tree.find? location = some found ↔
            search.world.tree.find? location = some found ∧
              ¬search.world.tree.IsMatch base filter
                location := by
  refine ⟨?_, ?_⟩
  · intro β κ _ search
    refine ⟨fun filter options stores =>
      deletes_deleteMatches filter options stores search, ?_⟩
    intro words filter sorts hAction hWords
    rcases exists_deletes_of_run hAction hWords with
      ⟨fault, between, hDelete, hRun⟩
    have hDeletes :=
      deletes_deleteMatches filter { sorts := sorts }
        search.stores.zipIdx search
    rw [hDelete] at hDeletes
    exact ⟨fault, between, hDeletes, hRun⟩
  · intro store path opened search base object words filter
      sorts hOpen hStores hFailures hRoot hNamed hReadable
      hSteady hBelow hWords
    rcases exists_serves hOpen hRoot hNamed hReadable with
      ⟨root, hServes⟩
    rw [← hStores] at hWords
    rcases exists_run_delete hServes hStores hFailures hSteady
        hBelow hWords with
      ⟨after, last, hRun, hWithout, hLast⟩
    refine ⟨after, hRun, fun location found => ?_⟩
    rw [hWithout location, ← hLast location]
    split
    · rename_i hGone
      exact ⟨nofun, fun hStays => absurd hGone hStays.2⟩
    · rename_i hThere
      exact ⟨fun hFound => ⟨hFound, hThere⟩, And.left⟩

/- The root of a store is none of the matches below it. -/
theorem not_isMatch_base :
    ¬tree.IsMatch base filter base := by
  rintro ⟨names, found, hSome, hBase, -⟩
  exact hSome (List.self_eq_append_right.1 hBase)

/- A search through a directory with all kinds of objects. -/
def inSmallTree : Search DirectoryStore where
  stores := [⟨"/data"⟩]
  out := {}
  world := smallTree
  now := 0

theorem run_delete_clears_small :
    (∃ fault between,
        Deletes none { sorts := [⟨.path, true⟩] }
          inSmallTree.stores.zipIdx inSmallTree fault
          between ∧
        run (["-sort", "path"] ++ ["-delete"]) inSmallTree =
          fault.elim between.finish
            fun fault => (some fault, between)) ∧
      ∃ after,
        run (["-sort", "path"] ++ ["-delete"]) inSmallTree =
          (none, after) ∧
        ∀ location found,
          after.world.tree.find? location = some found ↔
            smallTree.tree.find? location = some found ∧
              ¬smallTree.tree.IsMatch ["data"] none
                location := by
  have hWords :
      Expression.compile (registry inSmallTree.stores) 0
          ["-sort", "path"] =
        .ok (none, [⟨.path, true⟩]) := rfl
  have hRooted :
      (⟨"/data"⟩ : DirectoryStore).IsRootedAt ["data"] :=
    ⟨by decide +kernel, by decide +kernel⟩
  exact ⟨(run_delete_clears.1 inSmallTree).2
      ["-sort", "path"] none _ rfl hWords,
    run_delete_clears.2 ⟨"/data"⟩ "." smallTree inSmallTree
      ["data"] (.directory FileTree.newDirectory)
      ["-sort", "path"] none [⟨.path, true⟩] open_smallTree
      rfl rfl root_smallTree named_smallTree
      readable_smallTree
      (isSteady_of_objectAt hRooted root_smallTree
        not_isMatch_base)
      (FileTree.matchesBelow_none _ _) hWords⟩

/-
  A link to the top that leads through a directory below the
  root that it is used for.
-/
def windingTree : World where
  tree :=
    ((FileTree.empty.plant ["d", "a", "b"]
      (.directory FileTree.newDirectory)).plant ["m"]
      (.symlink FileTree.newLink "d/a/b/../../.."))

def inWindingTree : Search DirectoryStore where
  stores := [⟨"/m/d"⟩]
  out := {}
  world := windingTree
  now := 0

/- The entries of that directory, with the root in front. -/
def entriesInWindingTree : List Entry :=
  ["/", "/a", "/a/b"].map
    (FileObject.directory FileTree.newDirectory).entry

theorem deleteMatches_inWindingTree :
    deleteMatches none {} [(⟨"/m/d"⟩, 0)] inWindingTree =
      (none,
        removeEntries 0 ⟨"/m/d"⟩ entriesInWindingTree.reverse
          (inWindingTree.collect 0 ⟨"/m/d"⟩ none {}).2) := by
  have hMatched :
      (inWindingTree.collect 0 ⟨"/m/d"⟩ none
        {}).1.toOption = some entriesInWindingTree := by
    decide +kernel
  have hDepths :
      ∀ entry ∈ entriesInWindingTree,
        ∀ other ∈ entriesInWindingTree,
          entry.depth = other.depth → entry = other := by
    decide +kernel
  have hPerm := perm_deepestFirst entriesInWindingTree
  have hOrder :
      deepestFirst entriesInWindingTree =
        entriesInWindingTree.reverse := by
    refine List.Perm.eq_of_pairwise ?_
      (pairwise_depth_deepestFirst _) ?_
      (hPerm.trans entriesInWindingTree.reverse_perm.symm)
    · intro entry other hEntry hOther hLess hMore
      exact hDepths entry (hPerm.mem_iff.1 hEntry) other
        (List.mem_reverse.1 hOther)
        (Nat.le_antisymm hMore hLess)
    · decide +kernel
  unfold deleteMatches
  generalize inWindingTree.collect 0 ⟨"/m/d"⟩ none {} =
    collected at hMatched ⊢
  rcases collected with ⟨matched | matched, search⟩
  · cases hMatched
  · cases hMatched
    rw [← hOrder]
    rfl

/-
  As soon as that directory is gone, the root is out of
  reach.  The other matches count as removed, but they stay.
-/
theorem run_delete_loses_way :
    DirectoryStore.open "m/d" windingTree = .ok ⟨"/m/d"⟩ ∧
      windingTree.tree.objectAt false windingTree.directory
          "/m/d" =
        .ok (["d"], .directory FileTree.newDirectory) ∧
      (∀ names found,
        windingTree.tree.object? (["d"] ++ names) =
            some found →
          (windingTree.tree.look windingTree.directory
            ((⟨"/m/d"⟩ : DirectoryStore).pathBelow
              names)).isOk = true) ∧
      windingTree.tree.MatchesBelow ["d"] none ∧
      windingTree.tree.IsMatch ["d"] none ["d", "a"] ∧
      (run ["-delete"] inWindingTree).1 = none ∧
      (run ["-delete"] inWindingTree).2.world.tree.find?
          ["d", "a"] =
        some (.directory FileTree.newDirectory) := by
  have hLook :
      windingTree.tree.look windingTree.directory "/m/d" =
        .ok (.directory FileTree.newDirectory) := by
    decide +kernel
  have hBelow :
      windingTree.tree.look windingTree.directory
          ((⟨"/m/d"⟩ : DirectoryStore).pathBelow []) =
        .ok (.directory FileTree.newDirectory) := by
    decide +kernel
  have hWords :
      Expression.compile (registry inWindingTree.stores)
          inWindingTree.now [] =
        .ok (none, []) := rfl
  rcases exists_deletes_of_run rfl hWords with
    ⟨fault, between, hDelete, hRun⟩
  have hStores :
      inWindingTree.stores.zipIdx = [(⟨"/m/d"⟩, 0)] := rfl
  rw [hStores, deleteMatches_inWindingTree] at hDelete
  cases hDelete
  rw [List.nil_append, Option.elim_none] at hRun
  rw [hRun]
  refine ⟨?opens, ?root, ?readable, ?below, ?isMatch, ?fault,
    ?stays⟩
  case opens => exact open_of_look (by decide +kernel) hLook
  case root => decide +kernel
  case readable =>
    exact readable_of_objects hBelow (by decide +kernel)
  case below => exact FileTree.matchesBelow_none _ _
  case isMatch =>
    exact ⟨["a"], .directory FileTree.newDirectory,
      by decide, rfl, by decide +kernel, rfl⟩
  case fault => decide +kernel
  case stays => decide +kernel

end Search

end TreeKeeper
