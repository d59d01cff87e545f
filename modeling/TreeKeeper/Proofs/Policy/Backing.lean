import TreeKeeper.Proofs.Policy.Ending

/-
  Events with a reason.  Some events are only ever recorded
  behind certain others, and this is shown of a run by
  looking at one handled entry at a time.

  Key definitions include:
    * `Event.AllBacked`

  Main declarations:
    * `Course.allBacked_of_passes`
    * `Policy.allBacked_run`
-/

------------------------------------------------------------
-- Backed Events
------------------------------------------------------------

namespace TreeKeeper

namespace Event

variable {ι : Type}
variable {kind : Event ι → Prop}
variable {backs : List (Event ι) → Event ι → Prop}
variable {earlier events more : List (Event ι)}
variable {first : Event ι}

/-
  Whether every event of a kind, among some events, is backed
  by all that is in front of it.
-/
def AllBacked
    (kind : Event ι → Prop)
    (backs : List (Event ι) → Event ι → Prop)
    (earlier events : List (Event ι)) : Prop :=
  ∀ before event after,
    events = before ++ event :: after → kind event →
      backs (earlier ++ before) event

namespace AllBacked

theorem of_none
    (hEvents : ∀ event ∈ events, ¬ kind event) :
    AllBacked kind backs earlier events := by
  intro before event after hSplit hKind
  have hMember : event ∈ events := by
    rw [hSplit]
    exact List.mem_append_right _ List.mem_cons_self
  exact absurd hKind (hEvents event hMember)

theorem nil : AllBacked kind backs earlier [] :=
  of_none (List.forall_mem_nil _)

theorem cons
    (hRest :
      AllBacked kind backs (earlier ++ [first]) events)
    (hFirst : kind first → backs earlier first) :
    AllBacked kind backs earlier (first :: events) := by
  intro before event after hSplit hKind
  cases before with
  | nil =>
      cases hSplit
      rw [List.append_nil]
      exact hFirst hKind
  | cons other before =>
      cases hSplit
      rw [List.append_cons]
      exact hRest before event after rfl hKind

/- What is of another kind needs no backing. -/
theorem skip
    (hFirst : ¬ kind first)
    (hRest :
      AllBacked kind backs (earlier ++ [first]) events) :
    AllBacked kind backs earlier (first :: events) :=
  hRest.cons (absurd · hFirst)

theorem append
    (hEvents : AllBacked kind backs earlier events)
    (hMore :
      AllBacked kind backs (earlier ++ events) more) :
    AllBacked kind backs earlier (events ++ more) := by
  intro before event after hSplit hKind
  rcases List.append_eq_append_iff.1 hSplit with
    ⟨later, hBefore, hLater⟩ | ⟨later, hEarlier, hLater⟩
  · rw [hBefore, ← List.append_assoc]
    exact hMore later event after hLater hKind
  · cases later with
    | nil =>
        have hBacks := hMore [] event after hLater.symm hKind
        rw [hEarlier, List.append_nil] at hBacks
        simpa using hBacks
    | cons other later =>
        cases hLater
        exact hEvents before event later hEarlier hKind

theorem mono
    {others : List (Event ι) → Event ι → Prop}
    (hBacks : ∀ front event,
      backs front event → others front event)
    (hEvents : AllBacked kind backs earlier events) :
    AllBacked kind others earlier events :=
  fun before event after hSplit hKind =>
    hBacks _ _ (hEvents before event after hSplit hKind)

end AllBacked

end Event

------------------------------------------------------------
-- Runs
------------------------------------------------------------

variable {β γ κ μ : Type}
variable [Store β κ] [Store γ μ]
variable {kind : Event Side → Prop}
variable {backs : List (Event Side) → Event Side → Prop}

/- What handling single entries backs, a whole run backs. -/
theorem Course.allBacked_of_passes
    {launch : Launcher}
    {policy : Policy}
    {dryRun : Bool}
    {start cursor : κ}
    {opened course : Course β γ}
    (hSteps : ∀ {cursor next course world stale events},
      Passes launch policy dryRun start opened cursor
          course →
        Store.fetch β cursor course.stage.world =
          (.entry stale, next, world) →
        ((course.withWorld world).handle launch policy
            dryRun stale).stage.events =
          course.stage.events ++ events →
        Handles policy dryRun (course.withWorld world) stale
          events →
        Event.AllBacked kind backs course.stage.events
          events)
    (hOpened : opened.cache.IsFaithful policy)
    (hPasses :
      Passes launch policy dryRun start opened cursor
        course) :
    ∃ events,
      course.stage.events = opened.stage.events ++ events ∧
      Event.AllBacked kind backs opened.stage.events
        events := by
  induction hPasses with
  | start =>
      refine ⟨[], (List.append_nil _).symm, ?_⟩
      exact .nil
  | again hPasses hFetch ih => exact ih
  | @entry _ _ course world stale hPasses hFetch ih =>
      rcases ih with ⟨events, hEvents, hBacked⟩
      have hKept : course.cache.IsFaithful policy :=
        isFaithful_of_passes hOpened hPasses
      have hCache :
          (course.withWorld world).cache.IsFaithful policy :=
        hKept
      rcases handles_of_handle launch dryRun stale hCache with
        ⟨more, hMore, hHandles⟩
      refine ⟨events ++ more, ?_, hBacked.append ?_⟩
      · rw [← List.append_assoc, ← hEvents]
        exact hMore
      · rw [← hEvents]
        exact hSteps hPasses hFetch hMore hHandles

/-
  The same for all events of a run, of a kind that neither
  the query nor flushing is of.
-/
theorem Policy.allBacked_run
    (policy : Policy)
    (launch : Launcher)
    (options : QueryOptions)
    (stage : Stage β γ)
    (hAsking : ∀ success,
      ¬ kind (policy.asking options success))
    (hFlushing : ∀ live index,
      ∀ event ∈ Stage.flushing live index, ¬ kind event)
    (hSteps : ∀ {cursor next course world stale events},
      policy.Passes launch options stage cursor course →
        Store.fetch β cursor course.stage.world =
          (.entry stale, next, world) →
        ((course.withWorld world).handle launch policy
            options.dryRun stale).stage.events =
          course.stage.events ++ events →
        Course.Handles policy options.dryRun
          (course.withWorld world) stale events →
        Event.AllBacked kind backs course.stage.events
          events) :
    ∃ events,
      (policy.run launch options stage).2.events =
        stage.events ++ events ∧
      Event.AllBacked kind backs stage.events events := by
  rcases events_run policy launch options stage with
    ⟨asked, handled, live, index, hEvents, hCases⟩
  have hAsked :
      Event.AllBacked kind backs stage.events
        [policy.asking options asked] := by
    apply Event.AllBacked.of_none
    intro event hEvent
    rw [List.mem_singleton.1 hEvent]
    exact hAsking asked
  have hHandled :
      Event.AllBacked kind backs
        (stage.events ++ [policy.asking options asked])
        handled := by
    rcases hCases with
      rfl | ⟨start, opened, cursor, course, hQuery, hPasses,
        hOpened, hHandled⟩
    · exact .nil
    · have hSome :=
        Course.allBacked_of_passes
          (fun hPass => hSteps (.intro hQuery hPass))
          (isFaithful_opening policy opened) hPasses
      rcases hSome with ⟨events, hAll, hBacked⟩
      have hSame : events = handled :=
        List.append_cancel_left (hAll.symm.trans hHandled)
      rw [← hSame, ← hOpened]
      exact hBacked
  refine ⟨_, hEvents, (hAsked.append hHandled).append ?_⟩
  exact .of_none (hFlushing live index)

end TreeKeeper
