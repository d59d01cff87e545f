import TreeKeeper.Proofs.Policy.Safety

/-
  The index never runs ahead of the live store.  A change of
  the index repeats a change of the live store that has just
  succeeded, and nothing but the index shows whether it
  succeeds there too.

  Key definitions include:
    * `Event.ChangesIndex`
    * `Course.Repeats`
    * `Stage.front`
    * `Stage.withIndex`

  Main declarations:
    * `Stage.apply_withIndex`
    * `Course.handle_withIndex`
    * `Course.Handles.repeats`
    * `Policy.run_mirrors`
-/

------------------------------------------------------------
-- Changes Of The Index
------------------------------------------------------------

namespace TreeKeeper

/-
  The events by which a run changes the index: removing from
  it, and migrating in it.
-/
inductive Event.ChangesIndex : Event Side → Prop
| removed
    (entry : Entry)
    (success : Bool) :
    ChangesIndex (.called .index (.remove entry) success)
| migrated
    (entry : Entry)
    (parameters : Dictionary String)
    (success : Bool) :
    ChangesIndex
      (.called .index (.migrate entry parameters) success)

instance : DecidablePred Event.ChangesIndex
| .called .index (.remove _) _ => isTrue (.removed _ _)
| .called .index (.migrate _ _) _ => isTrue (.migrated _ _ _)
| .called .index (.query _ _) _ => isFalse (by rintro ⟨⟩)
| .called .index (.fresh _ _) _ => isFalse (by rintro ⟨⟩)
| .called .index .flush _ => isFalse (by rintro ⟨⟩)
| .called .live _ _ => isFalse (by rintro ⟨⟩)
| .fetched _ => isFalse (by rintro ⟨⟩)
| .launched _ _ _ => isFalse (by rintro ⟨⟩)

theorem Event.not_changesIndex_live
    (call : Call)
    (success : Bool) :
    ¬ (Event.called Side.live call success).ChangesIndex :=
  nofun

theorem Event.not_changesIndex_launched
    (entry : Entry)
    (words : List String)
    (isStarted : Bool) :
    ¬ (Event.launched entry words isStarted :
      Event Side).ChangesIndex :=
  nofun

theorem Stage.not_changesIndex_of_flushing
    (live index : Bool) :
    ∀ event ∈ flushing live index,
      ¬ event.ChangesIndex := by
  intro event hEvent
  unfold flushing at hEvent
  rw [List.mem_cons, List.mem_singleton] at hEvent
  rcases hEvent with rfl | rfl
  · exact nofun
  · exact nofun

variable {β γ κ μ : Type}
variable [Store β κ] [Store γ μ]

------------------------------------------------------------
-- Outcomes Without The Index
------------------------------------------------------------

namespace Stage

/- What is seen of a stage besides its index and its log. -/
def front
    {ε : Type}
    (outcome : ε × Stage β γ) : ε × γ × Sink :=
  (outcome.1, outcome.2.live, outcome.2.out)

/- A stage with another store as its index. -/
def withIndex
    {δ : Type}
    (stage : Stage β γ)
    (index : δ) : Stage δ γ where
  index := index
  live := stage.live
  out := stage.out
  world := stage.world
  events := stage.events

/- A deletion goes as the live store says. -/
theorem front_delete
    (stage : Stage β γ)
    (entry : Entry) :
    let removed :=
      Store.remove stage.live entry stage.world
    front (stage.delete entry) =
      (removed.1.mapError .ofStore, removed.2.1,
        stage.out) := by
  unfold delete removeLive
  generalize Store.remove stage.live entry stage.world =
    removed
  rcases removed with ⟨result, live, world⟩
  cases result with
  | error fault => rfl
  | ok done =>
      dsimp only
      split
      · unfold removeIndexed
        dsimp only
        split <;> rename_i hIndexed <;>
          rw [← (Prod.mk.inj hIndexed).2] <;> rfl
      · rfl

/- So does a migration. -/
theorem front_migrate
    (stage : Stage β γ)
    (entry : Entry)
    (parameters : Dictionary String) :
    let migrated :=
      Store.migrate stage.live entry parameters stage.world
    front (stage.migrate entry parameters) =
      (migrated.1.mapError .ofStore, migrated.2.1,
        stage.out) := by
  unfold migrate migrateLive
  generalize Store.migrate stage.live entry parameters
    stage.world = migrated
  rcases migrated with ⟨result, live, world⟩
  cases result with
  | error fault => rfl
  | ok done =>
      dsimp only
      split
      · unfold migrateIndexed
        dsimp only
        split <;> rename_i hIndexed <;>
          rw [← (Prod.mk.inj hIndexed).2] <;> rfl
      · rfl

variable {δ ν : Type} [Store δ ν]

theorem run_withIndex
    (stage : Stage β γ)
    (index : δ)
    (launch : Launcher)
    (prepared : Prepared)
    (entry : Entry) :
    front
        ((stage.withIndex index).run launch prepared
          entry) =
      front (stage.run launch prepared entry) := by
  have hPlace :
      (stage.withIndex index).placeText entry =
        stage.placeText entry := rfl
  unfold run
  rw [hPlace]
  dsimp only
  split <;> rfl

/- No index has a say in what comes of an action. -/
theorem apply_withIndex
    (stage : Stage β γ)
    (index : δ)
    (launch : Launcher)
    (prepared : Prepared)
    (dryRun : Bool)
    (entry : Entry) :
    front
        ((stage.withIndex index).apply launch prepared
          dryRun entry) =
      front (stage.apply launch prepared dryRun entry) := by
  have hLive :
      (stage.withIndex index).live = stage.live := rfl
  unfold apply
  rw [hLive]
  split
  · rfl
  · split
    · rfl
    · unfold act
      cases prepared.kind with
      | delete =>
          dsimp only
          rw [front_delete, front_delete]
          rfl
      | migrate =>
          dsimp only
          rw [front_migrate, front_migrate]
          rfl
      | command =>
          exact run_withIndex stage index launch prepared
            entry
      | print =>
          unfold write withIndex
          dsimp only
          generalize stage.out.write (entry.path ++ "\n") =
            written
          rcases written with ⟨isComplete, out⟩
          cases isComplete <;> rfl
      | log => rfl
      | count => rfl
      | noop => rfl

end Stage

namespace Course

variable {δ ν : Type} [Store δ ν]

/- A course with another store as its index. -/
def withIndex
    {δ : Type}
    (course : Course β γ)
    (index : δ) : Course δ γ where
  stage := course.stage.withIndex index
  cache := course.cache
  stats := course.stats

/-
  Whether two courses have counted alike and have the same
  live store and output.
-/
structure SameFront
    {δ : Type}
    (first : Course β γ)
    (second : Course δ γ) : Prop where
  stats : second.stats = first.stats
  cache : second.cache = first.cache
  live : second.stage.live = first.stage.live
  out : second.stage.out = first.stage.out

theorem sameFront_conclude
    {first : Course β γ}
    {second : Course δ γ}
    (hCourses : first.SameFront second)
    (prepared : Prepared)
    (entry : Entry)
    (result : Except ApplyFault Unit) :
    (first.conclude prepared entry result).SameFront
      (second.conclude prepared entry result) := by
  rcases hCourses with ⟨hStats, hCache, hLive, hOut⟩
  cases result with
  | ok done =>
      refine ⟨?_, ?_, hLive, hOut⟩
      · exact congrArg
          (fun stats : RunStats =>
            { stats with applied := stats.applied + 1 })
          hStats
      · exact congrArg
          (fun cache => cache.record prepared.kind true)
          hCache
  | error fault =>
      refine ⟨?_, ?_, hLive, hOut⟩
      · exact congrArg
          (fun stats : RunStats =>
            { stats with failed := stats.failed + 1 })
          hStats
      · exact congrArg
          (fun cache => cache.record prepared.kind false)
          hCache

theorem perform_withIndex
    (course : Course β γ)
    (index : δ)
    (launch : Launcher)
    (policy : Policy)
    (dryRun : Bool)
    (selection : Selection)
    (entry : Entry) :
    (course.perform launch policy dryRun selection
        entry).SameFront
      ((course.withIndex index).perform launch policy dryRun
        selection entry) := by
  have hCache :
      (course.withIndex index).cache = course.cache := rfl
  unfold perform
  rw [hCache]
  generalize course.cache.prepare policy selection = found
  rcases found with ⟨prepared?, cache⟩
  cases prepared? with
  | none => exact ⟨rfl, rfl, rfl, rfl⟩
  | some prepared =>
      have hApply :=
        Stage.apply_withIndex course.stage index launch
          prepared dryRun entry
      have hStage :
          (course.withIndex index).stage =
            course.stage.withIndex index := rfl
      dsimp only
      rw [hStage]
      generalize (course.stage.withIndex index).apply launch
        prepared dryRun entry = second at hApply ⊢
      generalize course.stage.apply launch prepared dryRun
        entry = first at hApply ⊢
      rcases first with ⟨result, first⟩
      rcases second with ⟨other, second⟩
      rcases Prod.mk.inj hApply with ⟨rfl, hFront⟩
      rcases Prod.mk.inj hFront with ⟨hLive, hOut⟩
      apply sameFront_conclude
      exact ⟨rfl, rfl, hLive, hOut⟩

/- No index has a say in what is counted for an entry. -/
theorem handle_withIndex
    (course : Course β γ)
    (index : δ)
    (launch : Launcher)
    (policy : Policy)
    (dryRun : Bool)
    (stale : Entry) :
    (course.handle launch policy dryRun stale).SameFront
      ((course.withIndex index).handle launch policy dryRun
        stale) := by
  have hFresh :
      Store.fresh (course.withIndex index).stage.live stale
          (course.withIndex index).stage.world =
        Store.fresh course.stage.live stale
          course.stage.world := rfl
  rw [handle_eq, handle_eq, hFresh]
  split
  · rename_i entry hEntry
    have hBefore :
        ((course.withIndex index).answered stale
            (some entry) true).countSelection
            (policy.select entry) =
          ((course.answered stale (some entry)
            true).countSelection
              (policy.select entry)).withIndex index := by
      cases policy.select entry <;> rfl
    unfold Course.decide
    dsimp only
    rw [hBefore]
    apply perform_withIndex
  · exact ⟨rfl, rfl, rfl, rfl⟩
  · exact ⟨rfl, rfl, rfl, rfl⟩

end Course

------------------------------------------------------------
-- Actions That Fail
------------------------------------------------------------

namespace Stage

/-
  Whether an action succeeded, as one has to that changes the
  index, or left the index alone.
-/
def SparesIndex
    (stage : Stage β γ)
    (outcome : Except ApplyFault Unit × Stage β γ) : Prop :=
  outcome.1 = .ok () ∨
    stage.Adds (fun event => ¬ event.ChangesIndex) outcome.2

/- What fails on the live store is not tried on the index. -/
theorem sparesIndex_delete
    (stage : Stage β γ)
    (entry : Entry) :
    stage.SparesIndex (stage.delete entry) := by
  have hLive := callsLive_removeLive stage entry
  unfold delete
  generalize stage.removeLive entry = outcome at hLive ⊢
  rcases outcome with ⟨result, after⟩
  cases result with
  | error fault =>
      exact .inr (.single hLive.1
        (Event.not_changesIndex_live _ _))
  | ok done =>
      left
      dsimp only
      split
      · split <;> rfl
      · rfl

theorem sparesIndex_migrate
    (stage : Stage β γ)
    (entry : Entry)
    (parameters : Dictionary String) :
    stage.SparesIndex (stage.migrate entry parameters) := by
  have hLive := callsLive_migrateLive stage entry parameters
  unfold migrate
  generalize stage.migrateLive entry parameters = outcome
    at hLive ⊢
  rcases outcome with ⟨result, after⟩
  cases result with
  | error fault =>
      exact .inr (.single hLive.1
        (Event.not_changesIndex_live _ _))
  | ok done =>
      left
      dsimp only
      split
      · split <;> rfl
      · rfl

/- Only what asks for a change can change the index. -/
theorem Deed.not_changesIndex
    {stage : Stage β γ}
    {prepared : Prepared}
    {entry : Entry}
    {deed : List (Event Side)}
    (hDeed : stage.Deed prepared entry deed)
    (hCall : prepared.call? entry = none) :
    ∀ event ∈ deed, ¬ event.ChangesIndex := by
  cases hDeed with
  | nothing => exact List.forall_mem_nil _
  | refused hSome => exact nomatch hCall.symm.trans hSome
  | alone hSome => exact nomatch hCall.symm.trans hSome
  | repeated hSome => exact nomatch hCall.symm.trans hSome
  | launched hKind isStarted =>
      intro event hEvent
      rw [List.mem_singleton.1 hEvent]
      exact Event.not_changesIndex_launched _ _ _

theorem sparesIndex_act
    (stage : Stage β γ)
    (launch : Launcher)
    (prepared : Prepared)
    (entry : Entry) :
    stage.SparesIndex (stage.act launch prepared entry) := by
  rcases deed_of_act stage launch prepared entry with
    ⟨deed, hEvents, hDeed⟩
  cases hCall : prepared.call? entry with
  | none =>
      exact .inr
        ⟨deed, hEvents, hDeed.not_changesIndex hCall⟩
  | some call =>
      unfold Prepared.call? at hCall
      unfold act
      split at hCall
      · rename_i hKind
        rw [hKind]
        exact sparesIndex_delete stage entry
      · rename_i hKind
        rw [hKind]
        exact sparesIndex_migrate stage entry _
      · exact nomatch hCall

/- An action that fails has not touched the index. -/
theorem sparesIndex_apply
    (stage : Stage β γ)
    (launch : Launcher)
    (prepared : Prepared)
    (dryRun : Bool)
    (entry : Entry) :
    stage.SparesIndex
      (stage.apply launch prepared dryRun entry) := by
  unfold apply
  split
  · exact .inr (.of_eq rfl)
  · split
    · exact .inl rfl
    · exact sparesIndex_act stage launch prepared entry

end Stage

------------------------------------------------------------
-- Handling
------------------------------------------------------------

namespace Course

variable {launch : Launcher} {policy : Policy}
variable {dryRun : Bool}

/-
  Whether an entry was counted as one to which an action was
  applied, and not as one on which an action failed.
-/
structure Succeeds (before after : RunStats) : Prop where
  applied : after.applied = before.applied + 1
  failed : after.failed = before.failed

theorem succeeds_of_perform
    (launch : Launcher)
    (policy : Policy)
    (dryRun : Bool)
    (selection : Selection)
    (entry : Entry)
    (course : Course β γ) :
    Succeeds course.stats
        (course.perform launch policy dryRun selection
          entry).stats ∨
      course.stage.Adds (fun event => ¬ event.ChangesIndex)
        (course.perform launch policy dryRun selection
          entry).stage := by
  unfold perform
  generalize course.cache.prepare policy selection = found
  rcases found with ⟨prepared?, cache⟩
  cases prepared? with
  | none => exact .inr (.of_eq rfl)
  | some prepared =>
      have hSpares :=
        course.stage.sparesIndex_apply launch prepared dryRun
          entry
      dsimp only
      generalize course.stage.apply launch prepared dryRun
        entry = applied at hSpares ⊢
      rcases applied with ⟨result, after⟩
      rcases hSpares with rfl | hAdds
      · exact .inl ⟨rfl, rfl⟩
      · right
        apply hAdds.trans
        exact .of_eq (events_conclude _ prepared entry result)

/-
  An entry counts as one to which its action was applied, or
  nothing changed in the index.
-/
theorem succeeds_of_handle
    (launch : Launcher)
    (policy : Policy)
    (dryRun : Bool)
    (stale : Entry)
    (course : Course β γ) :
    Succeeds course.stats
        (course.handle launch policy dryRun stale).stats ∨
      course.stage.Adds (fun event => ¬ event.ChangesIndex)
        (course.handle launch policy dryRun
          stale).stage := by
  have hAnswered :
      ∀ answer success,
        course.stage.Adds
          (fun event => ¬ event.ChangesIndex)
          (course.answered stale answer success).stage := by
    intro answer success
    have hFetched :
        course.stage.Adds
          (fun event => ¬ event.ChangesIndex)
          (course.stage.record (.fetched stale)) :=
      .single rfl nofun
    apply hFetched.trans
    exact .single rfl (Event.not_changesIndex_live _ _)
  rw [handle_eq]
  split
  · rename_i entry hFresh
    have hBefore := hAnswered (some entry) true
    let counted :=
      (course.answered stale (some entry)
        true).countSelection (policy.select entry)
    have hStage :
        counted.stage =
          (course.answered stale (some entry) true).stage :=
      stage_countSelection _ _
    have hStats :
        counted.stats.applied = course.stats.applied ∧
          counted.stats.failed = course.stats.failed := by
      unfold counted
      cases policy.select entry <;> exact ⟨rfl, rfl⟩
    unfold Course.decide
    rcases succeeds_of_perform launch policy dryRun
        (policy.select entry) entry counted with
      hSucceeds | hAdds
    · left
      exact ⟨hSucceeds.applied.trans
          (congrArg (· + 1) hStats.1),
        hSucceeds.failed.trans hStats.2⟩
    · right
      rw [hStage] at hAdds
      exact hBefore.trans hAdds
  · exact .inr (hAnswered none true)
  · exact .inr (hAnswered none false)

/-
  A change of the index behind the events of a course: the
  entry was just fetched and read again, the same change of
  it has just succeeded on the live store, the index offers
  such changes, and the entry counts as one to which its
  action was applied.
-/
inductive Repeats
    (launch : Launcher)
    (policy : Policy)
    (dryRun : Bool)
    (passes : κ → Course β γ → Prop) :
    List (Event Side) → Event Side → Prop
| intro
    {cursor next : κ}
    {course : Course β γ}
    {world : World}
    {stale entry : Entry}
    {prepared : Prepared}
    {call : Call}
    {success : Bool}
    (hPasses : passes cursor course)
    (hFetch :
      Store.fetch β cursor course.stage.world =
        (.entry stale, next, world))
    (hFresh :
      Store.fresh course.stage.live stale world =
        .ok (some entry))
    (hPrepared :
      policy.prepared? (policy.select entry) =
        some prepared)
    (hCall : prepared.call? entry = some call)
    (hOffered :
      call.isOffered (Store.capabilities course.stage.index) =
        true)
    (hSucceeds :
      Succeeds course.stats
        ((course.withWorld world).handle launch policy dryRun
          stale).stats) :
    Repeats launch policy dryRun passes
      (course.stage.events ++
        [.fetched stale,
          .called .live (.fresh stale (some entry)) true,
          .called .live call true])
      (.called .index call success)

/- Handling an entry changes the index by repetitions only. -/
theorem Handles.repeats
    {passes : κ → Course β γ → Prop}
    {cursor next : κ}
    {course : Course β γ}
    {world : World}
    {stale : Entry}
    {events : List (Event Side)}
    (hPasses : passes cursor course)
    (hFetch :
      Store.fetch β cursor course.stage.world =
        (.entry stale, next, world))
    (hEvents :
      ((course.withWorld world).handle launch policy dryRun
          stale).stage.events =
        course.stage.events ++ events)
    (hHandles :
      Handles policy dryRun (course.withWorld world) stale
        events) :
    Event.AllBacked Event.ChangesIndex
      (Repeats launch policy dryRun passes)
      course.stage.events events := by
  have hCounts :=
    succeeds_of_handle launch policy dryRun stale
      (course.withWorld world)
  rcases hCounts with hSucceeds | ⟨others, hOthers, hSpared⟩
  · have hFetched :
        ¬ (Event.fetched stale : Event Side).ChangesIndex :=
      nofun
    cases hHandles with
    | gone success =>
        refine .skip hFetched ?_
        refine .skip (Event.not_changesIndex_live _ _) ?_
        exact .nil
    | left hFresh =>
        refine .skip hFetched ?_
        refine .skip (Event.not_changesIndex_live _ _) ?_
        exact .nil
    | decided hFresh hPrepared hDeed hDryRun =>
        refine .skip hFetched ?_
        refine .skip (Event.not_changesIndex_live _ _) ?_
        cases hDeed with
        | nothing => exact .nil
        | refused hCall =>
            refine .skip (Event.not_changesIndex_live _ _) ?_
            exact .nil
        | alone hCall hIndex =>
            refine .skip (Event.not_changesIndex_live _ _) ?_
            exact .nil
        | launched hKind isStarted =>
            refine .skip
              (Event.not_changesIndex_launched _ _ _) ?_
            exact .nil
        | repeated hCall hOffered success =>
            refine .skip (Event.not_changesIndex_live _ _) ?_
            refine Event.AllBacked.nil.cons fun _ => ?_
            simp only [List.append_assoc, List.cons_append,
              List.nil_append]
            exact .intro hPasses hFetch hFresh hPrepared
              hCall hOffered hSucceeds
  · have hSame : events = others :=
      List.append_cancel_left (hEvents.symm.trans hOthers)
    rw [hSame]
    exact .of_none hSpared

/-
  Between a call that fails on the live store and a later
  change of the index, the entry for the change was fetched.
-/
theorem Repeats.exists_fetched
    {passes : κ → Course β γ → Prop}
    {before between : List (Event Side)}
    {call : Call}
    {event : Event Side}
    (hRepeats :
      Repeats launch policy dryRun passes
        (before ++ .called .live call false :: between)
        event) :
    ∃ stale, .fetched stale ∈ between := by
  generalize hFront :
    before ++ .called .live call false :: between = front
    at hRepeats
  cases hRepeats with
  | @intro _ _ course _ stale =>
      rcases List.append_eq_append_iff.1 hFront with
        ⟨later, _, hLater⟩ | ⟨later, _, hLater⟩
      · cases later with
        | nil => exact nomatch (List.cons.inj hLater).1
        | cons first later =>
            refine ⟨stale, ?_⟩
            rw [(List.cons.inj hLater).2]
            exact List.mem_append_right _ List.mem_cons_self
      · -- What failed is none of the three last events.
        have hMember :
            Event.called Side.live call false ∈
              later ++ .called .live call false :: between :=
          List.mem_append_right _ List.mem_cons_self
        rw [← hLater] at hMember
        simp at hMember

end Course

------------------------------------------------------------
-- Whole Runs
------------------------------------------------------------

namespace Policy

variable (policy : Policy) (launch : Launcher)
variable (options : QueryOptions) (stage : Stage β γ)

/-
  The index never runs ahead.  A run changes the index only
  right behind the same change of the live store, which has
  succeeded, and only as the index offers it.  What fails on
  the live store is not repeated: a later change of the index
  is for an entry that was fetched later.  At no point would
  another index, one that fails or one that does not, make a
  difference to the outcome of an action or to what counts.
-/
theorem run_mirrors :
    (∃ events,
      (policy.run launch options stage).2.events =
        stage.events ++ events ∧
      (∀ before event after,
        events = before ++ event :: after →
          event.ChangesIndex →
            Course.Repeats launch policy options.dryRun
              (policy.Passes launch options stage)
              (stage.events ++ before) event) ∧
      (∀ before call between event after,
        events =
            before ++ .called .live call false :: between ++
              event :: after →
          event.ChangesIndex →
            ∃ stale, .fetched stale ∈ between)) ∧
    (∀ {δ ν : Type} [Store δ ν]
      (index : δ) (course : Course β γ),
      (∀ prepared entry,
        Stage.front
            ((course.stage.withIndex index).apply launch
              prepared options.dryRun entry) =
          Stage.front
            (course.stage.apply launch prepared
              options.dryRun entry)) ∧
      ∀ stale,
        (course.handle launch policy options.dryRun
            stale).SameFront
          ((course.withIndex index).handle launch policy
            options.dryRun stale)) := by
  constructor
  · have hAsking : ∀ success,
        ¬ (policy.asking options success).ChangesIndex :=
      fun _ => nofun
    have hBacked :=
      policy.allBacked_run launch options stage hAsking
        Stage.not_changesIndex_of_flushing
        Course.Handles.repeats
    rcases hBacked with ⟨events, hEvents, hBacked⟩
    refine ⟨events, hEvents, hBacked, ?_⟩
    intro before call between event after hSplit hChanges
    have hRepeats := hBacked _ event after hSplit hChanges
    rw [← List.append_assoc] at hRepeats
    exact hRepeats.exists_fetched
  · intro δ ν _ index course
    refine ⟨?_, ?_⟩
    · intro prepared entry
      exact Stage.apply_withIndex course.stage index launch
        prepared options.dryRun entry
    · intro stale
      exact course.handle_withIndex index launch policy
        options.dryRun stale

/- A deletion that the index has to repeat. -/
theorem run_mirrors_delete :
    let policy : Policy :=
      ⟨"purge", none, [], [], ⟨.delete, Dictionary.empty⟩⟩
    let entry : Entry := .ofPath "/a" { size := 1 }
    let stage : Stage Snapshot Snapshot := {
      index := { entries := [entry] }
      live := { entries := [entry] }
      out := {}
      world := {} }
    let launch : Launcher :=
      fun world _ => (.error .noWords, world)
    ∃ before event after,
      (policy.run launch {} stage).2.events =
        before ++ event :: after ∧
      event.ChangesIndex ∧
      Course.Repeats launch policy false
        (policy.Passes launch {} stage) before event := by
  intro policy entry stage launch
  have hChange :
      ∃ event ∈ (policy.run launch {} stage).2.events,
        event.ChangesIndex := by
    decide +kernel
  rcases hChange with ⟨event, hEvent, hChanges⟩
  rcases (run_mirrors policy launch {} stage).1 with
    ⟨events, hEvents, hRepeats, _⟩
  have hStart : stage.events = [] := rfl
  rw [hStart, List.nil_append] at hEvents
  rw [hEvents] at hEvent
  rcases List.append_of_mem hEvent with
    ⟨before, after, hSplit⟩
  refine ⟨before, event, after, hEvents.trans hSplit,
    hChanges, ?_⟩
  exact hRepeats before event after hSplit hChanges

end Policy

end TreeKeeper
