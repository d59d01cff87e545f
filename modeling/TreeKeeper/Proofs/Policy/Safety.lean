import TreeKeeper.Proofs.Policy.Backing

/-
  Safety of runs: whatever a run changes, it changes for an
  entry that was just fetched from the index and read again
  from the live store, by the action that the policy decides
  on for this entry, and only outside of dry runs.

  The cache of a run is faithful in every state that the run
  passes, so each step adds events with a warrant only.

  Key definitions include:
    * `Action.Causes`
    * `Course.Warrants`
    * `Course.AllWarranted`

  Main declarations:
    * `Course.allWarranted_of_passes`
    * `Policy.run_changes_warranted`
-/

------------------------------------------------------------
-- Actions And Their Events
------------------------------------------------------------

namespace TreeKeeper

/-
  The events by which an action changes data, for an entry
  with a place in command lines.
-/
inductive Action.Causes
    (action : Action)
    (place : String)
    (entry : Entry) : Event Side → Prop
| removed
    (hKind : action.kind = .delete)
    (success : Bool) :
    Causes action place entry
      (.called .live (.remove entry) success)
| migrated
    (hKind : action.kind = .migrate)
    (success : Bool) :
    Causes action place entry
      (.called .live (.migrate entry action.parameters)
        success)
| launched
    (hKind : action.kind = .command)
    (isStarted : Bool) :
    Causes action place entry
      (.launched entry
        (Stage.fillIn action.commandWords place) isStarted)

theorem Action.causes_of_call?
    {action : Action}
    {rule : String}
    {entry : Entry}
    {call : Call}
    (hCall : (action.prepare rule).call? entry = some call)
    (place : String)
    (success : Bool) :
    action.Causes place entry
      (.called .live call success) := by
  unfold Prepared.call? at hCall
  split at hCall
  · rename_i hKind
    cases hCall
    exact .removed hKind success
  · rename_i hKind
    cases hCall
    exact .migrated hKind success
  · exact nomatch hCall

/- What is prepared comes from the action decided on. -/
theorem Policy.decides_of_prepared?
    {policy : Policy}
    {entry : Entry}
    {prepared : Prepared}
    (hPrepared :
      policy.prepared? (policy.select entry) =
        some prepared) :
    ∃ action rule,
      prepared = action.prepare rule ∧
      Filter.admits policy.filter entry = true ∧
      policy.Decides entry action := by
  rcases Option.map_eq_some_iff.1 hPrepared with
    ⟨action, hAction, hPrepare⟩
  exact ⟨action, _, hPrepare.symm,
    decides_of_select hAction⟩

------------------------------------------------------------
-- Single Entries
------------------------------------------------------------

section Splits

variable {before after rest : List (Event Side)}
variable {event first : Event Side}

/- A change is never in front of what is no change. -/
theorem Event.IsChange.split_cons
    (hChange : event.IsChange)
    (hFirst : ¬ first.IsChange)
    (hSplit : first :: rest = before ++ event :: after) :
    ∃ later,
      before = first :: later ∧
      rest = later ++ event :: after := by
  cases before with
  | nil =>
      cases hSplit
      exact absurd hChange hFirst
  | cons other later =>
      cases hSplit
      exact ⟨later, rfl, rfl⟩

theorem Event.not_isChange_fetched
    (entry : Entry) :
    ¬ (Event.fetched entry : Event Side).IsChange :=
  nofun

theorem Event.not_isChange_fresh
    (entry : Entry)
    (answer : Option Entry)
    (success : Bool) :
    ¬ (Event.called Side.live (.fresh entry answer)
      success).IsChange :=
  nofun

theorem Event.not_isChange_index
    (call : Call)
    (success : Bool) :
    ¬ (Event.called Side.index call success).IsChange :=
  nofun

/- A change is never in front of a fetched entry's answer. -/
theorem Event.IsChange.split_handled
    {stale : Entry}
    {answer : Option Entry}
    {success : Bool}
    (hChange : event.IsChange)
    (hSplit :
      .fetched stale ::
          .called .live (.fresh stale answer) success ::
            rest =
        before ++ event :: after) :
    ∃ later,
      before =
        .fetched stale ::
          .called .live (.fresh stale answer) success ::
            later ∧
      rest = later ++ event :: after := by
  have hFetched := Event.not_isChange_fetched stale
  have hFresh :=
    Event.not_isChange_fresh stale answer success
  rcases hChange.split_cons hFetched hSplit with
    ⟨middle, hBefore, hRest⟩
  rcases hChange.split_cons hFresh hRest with
    ⟨later, hMiddle, hLater⟩
  refine ⟨later, ?_, hLater⟩
  rw [hBefore, hMiddle]

end Splits

variable {β γ κ μ : Type}
variable [Store β κ] [Store γ μ]

/- A change in a deed comes first, and the action causes it. -/
theorem Stage.Deed.causes
    {stage : Stage β γ}
    {action : Action}
    {rule : String}
    {entry : Entry}
    {deed before after : List (Event Side)}
    {event : Event Side}
    (hDeed : stage.Deed (action.prepare rule) entry deed)
    (hSplit : deed = before ++ event :: after)
    (hChange : event.IsChange) :
    before = [] ∧
      action.Causes (stage.placeText entry) entry
        event := by
  have hAlone :
      ∀ {only : Event Side},
        action.Causes (stage.placeText entry) entry only →
        [only] = before ++ event :: after →
        before = [] ∧
          action.Causes (stage.placeText entry) entry
            event := by
    intro only hCauses hOnly
    rcases List.append_eq_singleton_iff.1 hOnly.symm with
      ⟨hBefore, hEvent⟩ | ⟨_, hNil⟩
    · cases hEvent
      exact ⟨hBefore, hCauses⟩
    · exact nomatch hNil
  cases hDeed with
  | nothing => simp at hSplit
  | refused hCall =>
      exact hAlone (Action.causes_of_call? hCall _ _) hSplit
  | alone hCall =>
      exact hAlone (Action.causes_of_call? hCall _ _) hSplit
  | launched hKind isStarted =>
      exact hAlone (.launched hKind isStarted) hSplit
  | repeated hCall hIndex success =>
      cases before with
      | nil =>
          cases hSplit
          exact ⟨rfl, Action.causes_of_call? hCall _ _⟩
      | cons other later =>
          have hLater := (List.cons.inj hSplit).2
          rcases List.append_eq_singleton_iff.1
              hLater.symm with
            ⟨_, hEvent⟩ | ⟨_, hNil⟩
          · cases hEvent
            exact absurd hChange
              (Event.not_isChange_index _ success)
          · exact nomatch hNil

/- Flushing the stores changes no data. -/
theorem Stage.not_isChange_of_flushing
    {live index : Bool} :
    ∀ event ∈ Stage.flushing live index,
      ¬ event.IsChange := by
  intro event hEvent
  unfold Stage.flushing at hEvent
  rw [List.mem_cons, List.mem_singleton] at hEvent
  rcases hEvent with rfl | rfl
  · exact nofun
  · exact nofun

namespace Course

/-
  A change behind the events of a course: the entry was just
  fetched, the live store has just answered with its present
  form, and the action that the policy decides on for it
  causes the change.
-/
inductive Warrants
    (passes : κ → Course β γ → Prop)
    (policy : Policy)
    (dryRun : Bool) :
    List (Event Side) → Event Side → Prop
| intro
    {cursor next : κ}
    {course : Course β γ}
    {world : World}
    {stale entry : Entry}
    {action : Action}
    {event : Event Side}
    (hPasses : passes cursor course)
    (hFetch :
      Store.fetch β cursor course.stage.world =
        (.entry stale, next, world))
    (hFresh :
      Store.fresh course.stage.live stale world =
        .ok (some entry))
    (hDryRun : dryRun = false)
    (hAdmits :
      Filter.admits policy.filter entry = true)
    (hDecides : policy.Decides entry action)
    (hCauses :
      action.Causes (course.stage.placeText entry) entry
        event) :
    Warrants passes policy dryRun
      (course.stage.events ++
        [.fetched stale,
          .called .live (.fresh stale (some entry)) true])
      event

/- A change while an entry is handled has a warrant. -/
theorem Handles.warrants
    {passes : κ → Course β γ → Prop}
    {policy : Policy}
    {dryRun : Bool}
    {cursor next : κ}
    {course : Course β γ}
    {world : World}
    {stale : Entry}
    {events before after : List (Event Side)}
    {event : Event Side}
    (hPasses : passes cursor course)
    (hFetch :
      Store.fetch β cursor course.stage.world =
        (.entry stale, next, world))
    (hHandles :
      Handles policy dryRun (course.withWorld world) stale
        events)
    (hSplit : events = before ++ event :: after)
    (hChange : event.IsChange) :
    Warrants passes policy dryRun
      (course.stage.events ++ before) event := by
  cases hHandles with
  | gone success =>
      rcases hChange.split_handled hSplit with ⟨_, _, hNil⟩
      simp at hNil
  | left hFresh =>
      rcases hChange.split_handled hSplit with ⟨_, _, hNil⟩
      simp at hNil
  | decided hFresh hPrepared hDeed hDryRun =>
      rcases hChange.split_handled hSplit with
        ⟨_, rfl, hDeedSplit⟩
      rcases Policy.decides_of_prepared? hPrepared with
        ⟨action, rule, rfl, hAdmits, hDecides⟩
      rcases hDeed.causes hDeedSplit hChange with
        ⟨rfl, hCauses⟩
      have hActs : dryRun = false := by
        cases dryRun with
        | false => rfl
        | true =>
            have hNil := hDryRun rfl
            rw [hNil] at hDeedSplit
            simp at hDeedSplit
      exact .intro hPasses hFetch hFresh hActs hAdmits
        hDecides hCauses

------------------------------------------------------------
-- The Invariant
------------------------------------------------------------

variable {passes : κ → Course β γ → Prop}
variable {policy : Policy} {dryRun : Bool}

/-
  Whether every change among some events has a warrant, with
  the events in front of them.
-/
def AllWarranted
    (passes : κ → Course β γ → Prop)
    (policy : Policy)
    (dryRun : Bool)
    (earlier events : List (Event Side)) : Prop :=
  ∀ before event after,
    events = before ++ event :: after → event.IsChange →
      Warrants passes policy dryRun (earlier ++ before)
        event

variable {launch : Launcher} {start : κ}
variable {opened : Course β γ}
variable {earlier events more : List (Event Side)}

theorem allWarranted_of_unchanged
    (hEvents : ∀ event ∈ events, ¬ event.IsChange) :
    AllWarranted passes policy dryRun earlier events :=
  Event.AllBacked.of_none hEvents

theorem AllWarranted.append
    (hEvents :
      AllWarranted passes policy dryRun earlier events)
    (hMore :
      AllWarranted passes policy dryRun (earlier ++ events)
        more) :
    AllWarranted passes policy dryRun earlier
      (events ++ more) :=
  Event.AllBacked.append hEvents hMore

/- Warrants that hold in a run hold in a larger one. -/
theorem AllWarranted.mono
    {others : κ → Course β γ → Prop}
    (hPasses : ∀ cursor course,
      passes cursor course → others cursor course)
    (hEvents :
      AllWarranted passes policy dryRun earlier events) :
    AllWarranted others policy dryRun earlier events := by
  refine Event.AllBacked.mono ?_ hEvents
  intro front event hWarrants
  cases hWarrants with
  | intro hPass hFetch hFresh hDryRun hAdmits hDecides
      hCauses =>
      exact .intro (hPasses _ _ hPass) hFetch hFresh hDryRun
        hAdmits hDecides hCauses

/- Handling an entry adds changes with a warrant only. -/
theorem Handles.allWarranted
    {cursor next : κ}
    {course : Course β γ}
    {world : World}
    {stale : Entry}
    (hPasses : passes cursor course)
    (hFetch :
      Store.fetch β cursor course.stage.world =
        (.entry stale, next, world))
    (hHandles :
      Handles policy dryRun (course.withWorld world) stale
        events) :
    AllWarranted passes policy dryRun course.stage.events
      events := by
  intro before event after hSplit hChange
  exact hHandles.warrants hPasses hFetch hSplit hChange

/-
  Every change since the start of a run has a warrant, in
  each state that the run passes.
-/
theorem allWarranted_of_passes
    (hOpened : opened.cache.IsFaithful policy)
    {cursor : κ}
    {course : Course β γ}
    (hPasses :
      Passes launch policy dryRun start opened cursor
        course) :
    ∃ events,
      course.stage.events = opened.stage.events ++ events ∧
      AllWarranted
        (Passes launch policy dryRun start opened) policy
        dryRun opened.stage.events events :=
  allBacked_of_passes
    (fun hPass hFetch _ hHandles =>
      hHandles.allWarranted hPass hFetch)
    hOpened hPasses

end Course

------------------------------------------------------------
-- Whole Runs
------------------------------------------------------------

namespace Policy

/-
  Between two changes, the entry for the later one was
  fetched.
-/
theorem exists_fetched_between
    (policy : Policy)
    {passes : κ → Course β γ → Prop}
    {dryRun : Bool}
    {before between : List (Event Side)}
    {first second : Event Side}
    (hFirst : first.IsChange)
    (hWarrants :
      Course.Warrants passes policy dryRun
        (before ++ first :: between) second) :
    ∃ stale, .fetched stale ∈ between := by
  generalize hFront : before ++ first :: between = front
    at hWarrants
  cases hWarrants with
  | @intro _ _ course _ stale entry _ _ _ _ _ _ _ _ _ =>
      refine ⟨stale, ?_⟩
      have hFetched := Event.not_isChange_fetched stale
      rcases List.append_eq_append_iff.1 hFront with
        ⟨later, _, hLater⟩ | ⟨later, _, hLater⟩
      · cases later with
        | nil =>
            cases hLater
            exact absurd hFirst hFetched
        | cons other later =>
            cases hLater
            exact List.mem_append_right _ List.mem_cons_self
      · rcases hFirst.split_handled hLater with ⟨_, _, hNil⟩
        simp at hNil

variable (policy : Policy) (launch : Launcher)
variable (options : QueryOptions) (stage : Stage β γ)

/- What a run handles behind its query has warrants. -/
theorem allWarranted_of_query
    {start cursor : κ}
    {opened : Stage β γ}
    {course : Course β γ}
    {handled : List (Event Side)}
    (hQuery :
      policy.query (policy.queryOptions options)
        (policy.announce stage) = (.ok start, opened))
    (hPasses :
      Course.Passes launch policy options.dryRun start
        (opening opened) cursor course)
    (hHandled :
      course.stage.events = opened.events ++ handled) :
    Course.AllWarranted
      (policy.Passes launch options stage) policy
      options.dryRun opened.events handled := by
  rcases Course.allWarranted_of_passes
      (isFaithful_opening policy opened) hPasses with
    ⟨events, hEvents, hWarranted⟩
  have hSame : events = handled :=
    List.append_cancel_left (hEvents.symm.trans hHandled)
  rw [← hSame]
  apply hWarranted.mono
  intro other between hPass
  exact .intro hQuery hPass

/-
  Whatever a run changes, it changes with a warrant, and each
  entry that it fetches leads to one change at most.
-/
theorem run_changes_warranted :
    ∃ events,
      (policy.run launch options stage).2.events =
        stage.events ++ events ∧
      (∀ before event after,
        events = before ++ event :: after →
          event.IsChange →
            Course.Warrants
              (policy.Passes launch options stage) policy
              options.dryRun (stage.events ++ before)
              event) ∧
      (∀ before first between second after,
        events =
            before ++ first :: between ++ second :: after →
          first.IsChange → second.IsChange →
            ∃ stale, .fetched stale ∈ between) := by
  rcases events_run policy launch options stage with
    ⟨asked, handled, live, index, hEvents, hCases⟩
  have hHandled :
      Course.AllWarranted
        (policy.Passes launch options stage) policy
        options.dryRun
        (stage.events ++ [policy.asking options asked])
        handled := by
    rcases hCases with
      rfl | ⟨start, opened, cursor, course, hQuery, hPasses,
        hOpened, hHandled⟩
    · exact Course.allWarranted_of_unchanged
        (List.forall_mem_nil _)
    · rw [← hOpened]
      exact allWarranted_of_query policy launch options
        stage hQuery hPasses hHandled
  have hAsked :
      Course.AllWarranted
        (policy.Passes launch options stage) policy
        options.dryRun stage.events
        [policy.asking options asked] := by
    apply Course.allWarranted_of_unchanged
    intro event hEvent
    rw [List.mem_singleton.1 hEvent]
    exact Event.not_isChange_index _ _
  have hFlushed :
      Course.AllWarranted
        (policy.Passes launch options stage) policy
        options.dryRun
        (stage.events ++
          ([policy.asking options asked] ++ handled))
        (Stage.flushing live index) := by
    apply Course.allWarranted_of_unchanged
    exact Stage.not_isChange_of_flushing
  have hWarranted :=
    (hAsked.append hHandled).append hFlushed
  refine ⟨_, hEvents, hWarranted, ?_⟩
  intro before first between second after hSplit hFirst
    hSecond
  have hWarrants :=
    hWarranted (before ++ first :: between) second after
      hSplit hSecond
  rw [← List.append_assoc] at hWarrants
  exact exists_fetched_between policy hFirst hWarrants

end Policy

end TreeKeeper
