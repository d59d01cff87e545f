import TreeKeeper.Policy.Run
import TreeKeeper.Proofs.Policy.Applying
import TreeKeeper.Proofs.Policy.Decision

/-
  What handling one entry of the index leaves in the record
  of events: that it was fetched, the answer of the live
  store, and, if the entry is still there and the policy
  decides on an action, the deed of this action.

  Key definitions include:
    * `Course.Handles`
    * `Stage.Invariant`

  Main declarations:
    * `Stage.Deed.forall_events`
    * `Course.Handles.forall_events`
    * `Course.handles_of_handle`
    * `Course.isFaithful_handle`
    * `Course.holds_handle`
-/

------------------------------------------------------------
-- Stages Alike
------------------------------------------------------------

namespace TreeKeeper

variable {β γ κ μ : Type}
variable [Store β κ] [Store γ μ]

/- A deed depends on the two stores of a stage alone. -/
theorem Stage.Deed.congr
    {stage other : Stage β γ}
    {prepared : Prepared}
    {entry : Entry}
    {events : List (Event Side)}
    (hDeed : stage.Deed prepared entry events)
    (hIndex : other.index = stage.index)
    (hLive : other.live = stage.live) :
    other.Deed prepared entry events := by
  have hPlace :
      other.placeText entry = stage.placeText entry := by
    unfold placeText
    rw [hLive]
  cases hDeed with
  | nothing => exact .nothing
  | refused hCall => exact .refused hCall
  | alone hCall hOffered =>
      rw [← hIndex] at hOffered
      exact .alone hCall hOffered
  | repeated hCall hOffered success =>
      rw [← hIndex] at hOffered
      exact .repeated hCall hOffered success
  | launched hKind isStarted =>
      rw [← hPlace]
      exact .launched hKind isStarted

/-
  What holds of removing and migrating an entry, and of
  programs, holds of all events of deeds.
-/
theorem Stage.Deed.forall_events
    {stage : Stage β γ}
    {prepared : Prepared}
    {entry : Entry}
    {events : List (Event Side)}
    (hDeed : stage.Deed prepared entry events)
    (kind : Event Side → Prop)
    (hRemove : ∀ side success,
      kind (.called side (.remove entry) success))
    (hMigrate : ∀ side parameters success,
      kind (.called side (.migrate entry parameters) success))
    (hLaunched : ∀ words isStarted,
      kind (.launched entry words isStarted)) :
    ∀ event ∈ events, kind event := by
  have hCalls : ∀ {call : Call} (side : Side) (success : Bool),
      prepared.call? entry = some call →
        kind (.called side call success) := by
    intro call side success hCall
    rcases Prepared.cases_of_call? hCall with rfl | rfl
    · exact hRemove side success
    · exact hMigrate side _ success
  cases hDeed with
  | nothing => exact List.forall_mem_nil _
  | refused hCall =>
      exact List.forall_mem_singleton.2 (hCalls _ _ hCall)
  | alone hCall hIndex =>
      exact List.forall_mem_singleton.2 (hCalls _ _ hCall)
  | repeated hCall hIndex success =>
      exact List.forall_mem_cons.2
        ⟨hCalls _ _ hCall,
          List.forall_mem_singleton.2 (hCalls _ _ hCall)⟩
  | launched hKind isStarted =>
      exact List.forall_mem_singleton.2 (hLaunched _ _)

namespace Course

/-
  The events of handling an entry of the index, with the
  stores as they are in a given course.
-/
inductive Handles
    (policy : Policy)
    (dryRun : Bool)
    (course : Course β γ)
    (stale : Entry) : List (Event Side) → Prop
| gone
    (success : Bool) :
    Handles policy dryRun course stale
      [.fetched stale,
        .called .live (.fresh stale none) success]
| left
    {entry : Entry}
    (hFresh :
      Store.fresh course.stage.live stale
        course.stage.world = .ok (some entry)) :
    Handles policy dryRun course stale
      [.fetched stale,
        .called .live (.fresh stale (some entry)) true]
| decided
    {entry : Entry}
    {prepared : Prepared}
    {deed : List (Event Side)}
    (hFresh :
      Store.fresh course.stage.live stale
        course.stage.world = .ok (some entry))
    (hPrepared :
      policy.prepared? (policy.select entry) =
        some prepared)
    (hDeed : course.stage.Deed prepared entry deed)
    (hDryRun : dryRun = true → deed = []) :
    Handles policy dryRun course stale
      (.fetched stale ::
        .called .live (.fresh stale (some entry)) true ::
          deed)

/-
  What holds of the entry that is fetched, of the answer of
  the live store, and of deeds, holds of all their events.
-/
theorem Handles.forall_events
    {policy : Policy}
    {dryRun : Bool}
    {course : Course β γ}
    {stale : Entry}
    {events : List (Event Side)}
    (hHandles : Handles policy dryRun course stale events)
    (kind : Event Side → Prop)
    (hFetched : kind (.fetched stale))
    (hFresh : ∀ answer success,
      kind (.called .live (.fresh stale answer) success))
    (hDeeds : ∀ prepared entry deed,
      course.stage.Deed prepared entry deed →
        (dryRun = true → deed = []) →
          ∀ event ∈ deed, kind event) :
    ∀ event ∈ events, kind event := by
  cases hHandles with
  | gone success => simp [hFetched, hFresh]
  | left hEntry => simp [hFetched, hFresh]
  | decided hEntry hPrepared hDeed hDryRun =>
      have hOthers := hDeeds _ _ _ hDeed hDryRun
      simpa [hFetched, hFresh] using hOthers

------------------------------------------------------------
-- Steps
------------------------------------------------------------

@[simp]
theorem events_conclude
    (course : Course β γ)
    (prepared : Prepared)
    (entry : Entry)
    (result : Except ApplyFault Unit) :
    (course.conclude prepared entry result).stage.events =
      course.stage.events := by
  cases result <;> rfl

theorem slots_conclude
    (course : Course β γ)
    (prepared : Prepared)
    (entry : Entry)
    (result : Except ApplyFault Unit) :
    (course.conclude prepared entry result).cache.slots =
      course.cache.slots := by
  cases result <;> rfl

@[simp]
theorem stage_countSelection
    (course : Course β γ)
    (selection : Selection) :
    (course.countSelection selection).stage =
      course.stage := by
  cases selection <;> rfl

@[simp]
theorem cache_countSelection
    (course : Course β γ)
    (selection : Selection) :
    (course.countSelection selection).cache =
      course.cache := by
  cases selection <;> rfl

variable {policy : Policy}

/-
  Performing what is prepared for a selection leaves a deed
  of it, and nothing if there is nothing prepared.
-/
theorem events_perform
    (launch : Launcher)
    (dryRun : Bool)
    (selection : Selection)
    (entry : Entry)
    {course : Course β γ}
    (hCache : course.cache.IsFaithful policy) :
    (course.perform launch policy dryRun selection
        entry).stage.events = course.stage.events ∨
    ∃ prepared deed,
      policy.prepared? selection = some prepared ∧
      course.stage.Deed prepared entry deed ∧
      (dryRun = true → deed = []) ∧
      (course.perform launch policy dryRun selection
          entry).stage.events =
        course.stage.events ++ deed := by
  have hPrepared :=
    ActionCache.prepare_of_isFaithful hCache selection
  unfold perform
  generalize course.cache.prepare policy selection = found
    at hPrepared ⊢
  rcases found with ⟨prepared?, cache⟩
  cases prepared? with
  | none => exact .inl rfl
  | some prepared =>
      rcases Stage.deed_of_apply course.stage launch prepared
          dryRun entry with
        ⟨deed, hEvents, hDeed, hDryRun⟩
      refine .inr ⟨prepared, deed, hPrepared.symm, hDeed,
        hDryRun, ?_⟩
      dsimp only
      rw [events_conclude]
      exact hEvents

theorem isFaithful_perform
    (launch : Launcher)
    (dryRun : Bool)
    (selection : Selection)
    (entry : Entry)
    {course : Course β γ}
    (hCache : course.cache.IsFaithful policy) :
    (course.perform launch policy dryRun selection
      entry).cache.IsFaithful policy := by
  have hPrepare :=
    ActionCache.isFaithful_prepare hCache selection
  unfold perform
  generalize course.cache.prepare policy selection = found
    at hPrepare ⊢
  rcases found with ⟨prepared?, cache⟩
  cases prepared? with
  | none => exact hPrepare
  | some prepared =>
      dsimp only
      unfold ActionCache.IsFaithful
      rw [slots_conclude]
      exact hPrepare

------------------------------------------------------------
-- Handling
------------------------------------------------------------

/-
  The course in which the policy selects: an entry was
  fetched, and the live store gave an answer.
-/
def answered
    (course : Course β γ)
    (stale : Entry)
    (answer : Option Entry)
    (success : Bool) : Course β γ :=
  { course with
    stage :=
      (course.stage.record (.fetched stale)).record
        (.called .live (.fresh stale answer) success)
    stats :=
      { course.stats with
        fetched := course.stats.fetched + 1 } }

/- Handling an entry goes by the answer of the live store. -/
theorem handle_eq
    (launch : Launcher)
    (policy : Policy)
    (dryRun : Bool)
    (stale : Entry)
    (course : Course β γ) :
    course.handle launch policy dryRun stale =
      match Store.fresh course.stage.live stale
          course.stage.world with
      | .ok (some entry) =>
          (course.answered stale (some entry) true).decide
            launch policy dryRun entry
      | .ok none =>
          (course.answered stale none true).vanish
            ("'" ++ stale.path ++
              "' vanished since it was indexed")
      | .error fault =>
          (course.answered stale none false).vanish
            ("cannot check '" ++ stale.path ++ "': " ++
              fault.message) := by
  unfold handle refresh
  dsimp only [tally, Stage.record]
  cases Store.fresh course.stage.live stale
      course.stage.world with
  | error fault => rfl
  | ok answer => cases answer <;> rfl

/- Handling an entry leaves the events told above. -/
theorem handles_of_handle
    (launch : Launcher)
    (dryRun : Bool)
    (stale : Entry)
    {course : Course β γ}
    (hCache : course.cache.IsFaithful policy) :
    ∃ events,
      (course.handle launch policy dryRun
          stale).stage.events =
        course.stage.events ++ events ∧
      Handles policy dryRun course stale events := by
  rw [handle_eq]
  cases hFresh : Store.fresh course.stage.live stale
      course.stage.world with
  | error fault =>
      exact ⟨_, List.append_assoc _ _ _, .gone false⟩
  | ok answer =>
      cases answer with
      | none =>
          exact ⟨_, List.append_assoc _ _ _, .gone true⟩
      | some entry =>
          have hBefore :
              ((course.answered stale (some entry)
                true).countSelection
                  (policy.select entry)).stage =
                (course.answered stale (some entry)
                  true).stage :=
            stage_countSelection _ _
          have hKept :
              ((course.answered stale (some entry)
                true).countSelection
                  (policy.select
                    entry)).cache.IsFaithful policy := by
            rw [cache_countSelection]
            exact hCache
          unfold Course.decide
          rcases events_perform launch dryRun
              (policy.select entry) entry hKept with
            hEvents | ⟨prepared, deed, hPrepared, hDeed,
              hDryRun, hEvents⟩
          · rw [hEvents, hBefore]
            exact ⟨_, List.append_assoc _ _ _, .left hFresh⟩
          · rw [hEvents, hBefore]
            rw [hBefore] at hDeed
            refine ⟨_, ?_, .decided hFresh hPrepared
              (hDeed.congr rfl rfl) hDryRun⟩
            unfold answered
            simp

theorem isFaithful_handle
    (launch : Launcher)
    (dryRun : Bool)
    (stale : Entry)
    {course : Course β γ}
    (hCache : course.cache.IsFaithful policy) :
    (course.handle launch policy dryRun
      stale).cache.IsFaithful policy := by
  rw [handle_eq]
  split
  · apply isFaithful_perform
    rw [cache_countSelection]
    exact hCache
  · exact hCache
  · exact hCache

end Course

------------------------------------------------------------
-- Invariants
------------------------------------------------------------

/-
  Whether a property of stages is kept by all that happens to
  a stage while entries are handled: by events and warnings,
  by the actions of a policy, and by a cursor that is asked.
-/
structure Stage.Invariant
    (policy : Policy)
    (launch : Launcher)
    (dryRun : Bool)
    (holds : Stage β γ → Prop) : Prop where
  record : ∀ stage event,
    holds stage → holds (stage.record event)
  warn : ∀ stage text,
    holds stage → holds (stage.warn text)
  apply : ∀ stage selection prepared entry,
    policy.prepared? selection = some prepared →
      holds stage →
        holds (stage.apply launch prepared dryRun entry).2
  fetch : ∀ stage cursor,
    holds stage →
      holds { stage with
        world := (Store.fetch β cursor stage.world).2.2 }

namespace Course

variable {policy : Policy} {launch : Launcher}
variable {dryRun : Bool} {holds : Stage β γ → Prop}

theorem holds_perform
    (hInvariant : Stage.Invariant policy launch dryRun holds)
    (selection : Selection)
    (entry : Entry)
    {course : Course β γ}
    (hCache : course.cache.IsFaithful policy)
    (hStage : holds course.stage) :
    holds
      (course.perform launch policy dryRun selection
        entry).stage := by
  have hPrepared :=
    ActionCache.prepare_of_isFaithful hCache selection
  unfold perform
  generalize course.cache.prepare policy selection = found
    at hPrepared ⊢
  rcases found with ⟨prepared?, cache⟩
  cases prepared? with
  | none => exact hStage
  | some prepared =>
      have hApply :=
        hInvariant.apply course.stage selection prepared entry
          hPrepared.symm hStage
      dsimp only
      generalize course.stage.apply launch prepared dryRun
        entry = applied at hApply ⊢
      rcases applied with ⟨result, after⟩
      cases result with
      | ok done => exact hApply
      | error fault => exact hInvariant.warn after _ hApply

/- An invariant is kept when an entry is handled. -/
theorem holds_handle
    (hInvariant : Stage.Invariant policy launch dryRun holds)
    (stale : Entry)
    {course : Course β γ}
    (hCache : course.cache.IsFaithful policy)
    (hStage : holds course.stage) :
    holds
      (course.handle launch policy dryRun stale).stage := by
  have hAnswered :
      ∀ answer success,
        holds (course.answered stale answer success).stage :=
    fun _ _ =>
      hInvariant.record _ _ (hInvariant.record _ _ hStage)
  rw [handle_eq]
  split
  · rename_i entry hFresh
    unfold Course.decide
    apply holds_perform hInvariant
    · rw [cache_countSelection]
      exact hCache
    · rw [stage_countSelection]
      exact hAnswered (some entry) true
  · exact hInvariant.warn _ _ (hAnswered none true)
  · exact hInvariant.warn _ _ (hAnswered none false)

end Course

end TreeKeeper
