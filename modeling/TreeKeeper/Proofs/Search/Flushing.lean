import TreeKeeper.Proofs.Search.Asking
import TreeKeeper.Proofs.Search.Readable
import TreeKeeper.Proofs.Store.Flushing

/-
  When searches flush their stores.  A search that comes to
  its end flushes its output and then one store after the
  other, behind all that was asked of them, and stops at the
  first of these that fails.  A search that fails before
  flushes none of them, so what it has removed from a
  snapshot is still in its file.

  Key definitions include:
    * `Event.removed?`
    * `Search.Flushes`
    * `Search.Releases`

  Main declarations:
    * `Search.Steps.addsNoFlush`
    * `Search.flushes_of_flush`
    * `Search.run_releases`
    * `Search.removals_unsaved`
-/

------------------------------------------------------------
-- Planned Faults
------------------------------------------------------------

namespace TreeKeeper

/- The entry that an event removed. -/
def Event.removed? {ι : Type} : Event ι → Option Entry
| .called _ (.remove entry) true => some entry
| _ => none

namespace SearchAction

theorem isMisuse_of_ofRequest
    {request : ActionRequest}
    {fault : SearchFault}
    (hRequest : ofRequest request = .error fault) :
    fault.IsMisuse := by
  rcases fault_of_ofRequest hRequest with
    ⟨_, rfl⟩ | ⟨_, cause, rfl⟩
  · exact .reserved _
  · exact .expression _

end SearchAction

namespace Search

theorem isMisuse_of_sequel
    {registry : Registry}
    {scope : Scope}
    {args : List String}
    {fault : SearchFault}
    (hSequel : sequel registry scope args = .failed fault) :
    fault.IsMisuse := by
  unfold sequel at hSequel
  split at hSequel
  · cases hSequel
    exact .expression _
  · split at hSequel
    · exact nomatch hSequel
    · exact nomatch hSequel
  · exact nomatch hSequel
  · exact nomatch hSequel
  · exact nomatch hSequel
  · exact nomatch hSequel

/- The fault that a plan ends in is a misuse. -/
theorem isMisuse_of_planFrom
    {registry : Registry}
    {now : Int64}
    {steps : Nat}
    {scope : Scope}
    {args : List String}
    {fault : SearchFault}
    (hFault :
      (planFrom registry now steps scope args).fault =
        some fault) :
    fault.IsMisuse := by
  induction steps generalizing scope args with
  | zero => cases hFault
  | succ steps ih =>
      unfold planFrom at hFault
      split at hFault
      · cases hFault
        exact .expression _
      · dsimp only at hFault
        split at hFault
        · cases hFault
        · split at hFault
          · rename_i hRequest
            cases hFault
            exact SearchAction.isMisuse_of_ofRequest hRequest
          · unfold Plan.behind at hFault
            dsimp only at hFault
            split at hFault
            · cases hFault
            · rename_i hSequel
              cases hFault
              exact isMisuse_of_sequel hSequel
            · exact ih hFault

------------------------------------------------------------
-- Events Of Steps
------------------------------------------------------------

variable {β κ : Type}

/- Whether a search has more events, and no flush in them. -/
def AddsNoFlush (before after : Search β) : Prop :=
  ∃ events,
    after.events = before.events ++ events ∧
    ∀ event ∈ events, ¬ event.IsFlush

theorem AddsNoFlush.of_eq
    {before after : Search β}
    (hEvents : after.events = before.events) :
    AddsNoFlush before after := by
  refine ⟨[], ?_, List.forall_mem_nil _⟩
  rw [hEvents, List.append_nil]

theorem AddsNoFlush.single
    {before after : Search β}
    {event : Event Nat}
    (hEvents : after.events = before.events ++ [event])
    (hEvent : ¬ event.IsFlush) :
    AddsNoFlush before after := by
  refine ⟨[event], hEvents, ?_⟩
  simpa using hEvent

theorem AddsNoFlush.trans
    {first second third : Search β}
    (hFirst : AddsNoFlush first second)
    (hSecond : AddsNoFlush second third) :
    AddsNoFlush first third := by
  rcases hFirst with ⟨events, hEvents, hNone⟩
  rcases hSecond with ⟨more, hMore, hOthers⟩
  refine ⟨events ++ more, ?_, ?_⟩
  · rw [hMore, hEvents, List.append_assoc]
  · intro event hEvent
    rcases List.mem_append.1 hEvent with hOld | hNew
    · exact hNone event hOld
    · exact hOthers event hNew

variable [Store β κ]

/- No step of an action flushes a store. -/
theorem addsNoFlush_of_step
    {kind : StepKind}
    {first second : Search β}
    (hStep : Step kind first second) :
    AddsNoFlush first second := by
  cases hStep with
  | query search place store filter options =>
      apply AddsNoFlush.single rfl
      rintro ⟨⟩
  | fetch search cursor => exact .of_eq rfl
  | print hFile text => exact .of_eq (events_put _ text)
  | fill hFile text => exact .of_eq (events_put _ text)
  | «open» search path => exact .of_eq (events_openFile _ path)
  | close search => exact .of_eq (events_closeFile _)
  | remove search place store entry =>
      rcases removeEntry_eq first place store entry with
        ⟨_, _, _, success, hRemove⟩
      rw [hRemove]
      apply AddsNoFlush.single rfl
      rintro ⟨⟩

theorem Steps.addsNoFlush
    {allowed : StepKind → Prop}
    {first second : Search β}
    (hSteps : Steps allowed first second) :
    AddsNoFlush first second := by
  induction hSteps with
  | refl => exact .of_eq rfl
  | tail _ _ hStep ih =>
      exact ih.trans (addsNoFlush_of_step hStep)

/- Performing deeds is a chain of steps, however it ends. -/
theorem steps_performAll
    (last : Option SearchFault)
    (deeds : List Deed)
    (search : Search β) :
    Steps (fun _ => True) search
      (performAll last deeds search).2 := by
  induction deeds generalizing search with
  | nil => exact .refl search
  | cons deed rest ih =>
      have hDeed :
          Steps (fun _ => True) search
            (deed.perform search).2 :=
        (steps_execute deed.filter deed.sorts deed.action
          search).mono fun _ _ => trivial
      unfold performAll
      generalize deed.perform search = performed at hDeed ⊢
      rcases performed with ⟨ending, between⟩
      rcases ending with fault | ends
      · exact hDeed
      · cases ends with
        | true => exact hDeed
        | false => exact hDeed.trans (ih between)

/- Deeds fail because of trouble, or at the fault behind. -/
theorem cases_of_performAll_fault
    {last : Option SearchFault}
    {deeds : List Deed}
    {search after : Search β}
    {fault : SearchFault}
    (hPerform :
      performAll last deeds search = (some fault, after)) :
    fault.IsTrouble ∨ last = some fault := by
  induction deeds generalizing search with
  | nil =>
      cases hPerform
      exact .inr rfl
  | cons deed rest ih =>
      unfold performAll at hPerform
      split at hPerform
      · rename_i hDeed
        cases hPerform
        exact .inl (isTrouble_of_execute hDeed)
      · exact nomatch hPerform
      · exact ih hPerform

------------------------------------------------------------
-- Flushing
------------------------------------------------------------

/-
  The events of flushing the stores at some places, up to the
  first one that fails.
-/
inductive Flushes :
    List Nat → Option StoreFault → List (Event Nat) → Prop
| done : Flushes [] none []
| failed
    {place : Nat}
    {rest : List Nat}
    (fault : StoreFault) :
    Flushes (place :: rest) (some fault)
      [.called place .flush false]
| next
    {place : Nat}
    {rest : List Nat}
    {fault : Option StoreFault}
    {events : List (Event Nat)}
    (hRest : Flushes rest fault events) :
    Flushes (place :: rest) fault
      (.called place .flush true :: events)

/- Without a fault every store was flushed. -/
theorem Flushes.eq_map
    {places : List Nat}
    {events : List (Event Nat)}
    (hFlushes : Flushes places none events) :
    events = places.map (.called · .flush true) := by
  generalize hFault : (none : Option StoreFault) = fault
    at hFlushes
  induction hFlushes with
  | done => rfl
  | failed fault => exact nomatch hFault
  | next hRest ih => rw [ih hFault, List.map_cons]

theorem flushes_of_flush
    (stores : List (β × Nat))
    (search : Search β) :
    ∃ events,
      (flush stores search).2.events =
        search.events ++ events ∧
      Flushes (stores.map Prod.snd) (flush stores search).1
        events := by
  induction stores generalizing search with
  | nil => exact ⟨[], (List.append_nil _).symm, .done⟩
  | cons first rest ih =>
      rcases first with ⟨store, place⟩
      unfold flush
      generalize Store.flush store search.world = flushed
      rcases flushed with ⟨result, later, world⟩
      cases result with
      | error fault => exact ⟨_, rfl, .failed fault⟩
      | ok done =>
          let between : Search β :=
            { search with
              world := world
              stores := search.stores.set place
                later }.record (.called place .flush true)
          rcases ih between with ⟨events, hEvents, hRest⟩
          refine ⟨_, ?_, .next hRest⟩
          exact hEvents.trans (List.append_assoc _ _ _)

------------------------------------------------------------
-- Ends Of Searches
------------------------------------------------------------

/-
  How a search of some stores with some output ends, and the
  flushes behind all other events.  Without a fault in front
  of its end, the output is flushed, and then each store up
  to the first one that fails.  No store is flushed if the
  output cannot be, or if there is a fault before.
-/
inductive Releases
    (count : Nat)
    (out : Sink) :
    Option SearchFault → List (Event Nat) → Prop
| saved
    {result : Option SearchFault}
    (hOutput : out.flush.1 = true)
    (hResult :
      result = none ∨
        ∃ failures, result = some (.failures failures)) :
    Releases count out result
      ((List.range count).map (.called · .flush true))
| stopped
    {fault : StoreFault}
    {events : List (Event Nat)}
    (hOutput : out.flush.1 = true)
    (hFlushes :
      Flushes (List.range count) (some fault) events) :
    Releases count out (some (.store fault)) events
| unwritten
    (hOutput : out.flush.1 = false) :
    Releases count out (some (.output .full)) []
| left
    {fault : SearchFault}
    (hFault : fault.IsMisuse ∨ fault.IsTrouble) :
    Releases count out (some fault) []

theorem releases_of_finishStores
    {out : Sink}
    (hOutput : out.flush.1 = true)
    (search : Search β) :
    ∃ flushes,
      Releases search.stores.length out
        search.finishStores.1 flushes ∧
      search.finishStores.2.events =
        search.events ++ flushes := by
  have hPlaces :
      search.stores.zipIdx.map Prod.snd =
        List.range search.stores.length := by
    rw [List.zipIdx_map_snd, List.range_eq_range']
  rcases flushes_of_flush search.stores.zipIdx search with
    ⟨events, hEvents, hFlushes⟩
  rw [hPlaces] at hFlushes
  unfold finishStores
  generalize flush search.stores.zipIdx search = flushed
    at hEvents hFlushes ⊢
  rcases flushed with ⟨fault, after⟩
  cases fault with
  | some fault =>
      exact ⟨events, .stopped hOutput hFlushes, hEvents⟩
  | none =>
      rw [hFlushes.eq_map] at hEvents
      dsimp only
      split
      · exact ⟨_, .saved hOutput (.inr ⟨_, rfl⟩), hEvents⟩
      · exact ⟨_, .saved hOutput (.inl rfl), hEvents⟩

theorem releases_of_finish
    (search : Search β) :
    ∃ flushes,
      Releases search.stores.length search.out
        search.finish.1 flushes ∧
      search.finish.2.events = search.events ++ flushes := by
  rw [finish_eq]
  split
  · rename_i hOutput
    exact releases_of_finishStores hOutput
      { search with out := search.out.flush.2 }
  · rename_i hOutput
    exact ⟨[], .unwritten (Bool.eq_false_iff.2 hOutput),
      (List.append_nil _).symm⟩

/-
  A search flushes its stores behind everything else that it
  asks of them, so behind every removal.  It flushes all of
  them if it succeeds or reports entries that could not be
  deleted, it leaves those behind a store that fails, and it
  flushes none if its expression is at fault, an action fails
  or what is left of the output cannot be written.
-/
theorem run_releases
    (args : List String)
    (search : Search β) :
    ∃ before flushes,
      AddsNoFlush search before ∧
      Releases search.stores.length before.out
        (run args search).1 flushes ∧
      (run args search).2.events =
        before.events ++ flushes := by
  rw [run_eq_perform]
  unfold Plan.perform
  generalize hPlan :
    plan (registry search.stores) search.now args = planned
  have hSteps :=
    steps_performAll planned.fault planned.deeds search
  cases hPerform :
      performAll planned.fault planned.deeds search with
  | mk fault before =>
      rw [hPerform] at hSteps
      cases fault with
      | none =>
          rcases releases_of_finish before with
            ⟨flushes, hReleases, hEvents⟩
          rw [hSteps.length_stores] at hReleases
          exact ⟨before, flushes, hSteps.addsNoFlush,
            hReleases, hEvents⟩
      | some fault =>
          have hFault : fault.IsMisuse ∨ fault.IsTrouble := by
            rcases cases_of_performAll_fault hPerform with
              hTrouble | hLast
            · exact .inr hTrouble
            · rw [← hPlan] at hLast
              exact .inl (isMisuse_of_planFrom hLast)
          exact ⟨before, [], hSteps.addsNoFlush,
            .left hFault, (List.append_nil _).symm⟩

/- A small file. -/
def smallFile : Entry :=
  .ofPath "/a.tmp" { size := 2048 }

/- A search through the snapshot that a file holds. -/
def inFile (out : Sink) : Search Snapshot where
  stores := [{ path := some "/index", entries := [smallFile] }]
  out := out
  world := {
    tree :=
      (FileTree.empty.put? ["index"]
        (.file FileTree.newFile
          (Snapshot.textOf [smallFile]))).getD .empty }
  now := 0

/- A terminal that has no room left for a line. -/
def fullTerminal : Sink where
  limit := some 0
  capacity := some 1024

/-
  Whether a search through that snapshot removes its entry
  and fails without a flush: the snapshot lost the entry, but
  the file still lists it.
-/
def LosesRemoval
    (args : List String)
    (out : Sink)
    (fault : SearchFault) : Prop :=
  let after := (run args (inFile out)).2
  (run args (inFile out)).1 = some fault ∧
    after.events.filterMap Event.removed? = [smallFile] ∧
    (∀ event ∈ after.events, ¬ event.IsFlush) ∧
    after.stores.map Snapshot.entries = [[]] ∧
    (after.world.tree.readText after.world.directory
      "/index").toOption =
        some (Snapshot.textOf [smallFile])

/-
  A deletion is not written back in front of a typing error,
  nor if its output still has to be written and cannot be.
-/
theorem removals_unsaved :
    LosesRemoval ["-delete", "-bogus"] {}
        (.expression (.unknownAction "-bogus")) ∧
      LosesRemoval ["-printf", "%p", "-delete"] fullTerminal
        (.output .full) := by
  refine ⟨⟨rfl, ?misused, ?called, ?left, ?kept⟩,
    ⟨?written, ?removed, ?unflushed, ?emptied, ?listed⟩⟩
  all_goals decide +kernel

end Search

end TreeKeeper
