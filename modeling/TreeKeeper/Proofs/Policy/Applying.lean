import TreeKeeper.Policy.Apply

/-
  What applying an action leaves in the record of events.
  An action asks for at most one change of the live store, or
  for one program, and the index repeats a change only right
  behind a success of the live store.

  Key definitions include:
    * `Event.IsChange`
    * `Prepared.call?`
    * `Call.isOffered`
    * `Stage.Deed`

  Main declarations:
    * `Stage.deed_of_act`
    * `Stage.deed_of_apply`
-/

------------------------------------------------------------
-- Changes
------------------------------------------------------------

namespace TreeKeeper

/-
  The events by which a run changes data: removing from the
  live store, migrating there, and launching a program.
-/
inductive Event.IsChange : Event Side → Prop
| removed
    (entry : Entry)
    (success : Bool) :
    IsChange (.called .live (.remove entry) success)
| migrated
    (entry : Entry)
    (parameters : Dictionary String)
    (success : Bool) :
    IsChange
      (.called .live (.migrate entry parameters) success)
| launched
    (entry : Entry)
    (words : List String)
    (isStarted : Bool) :
    IsChange (.launched entry words isStarted)

/- The change of a store that an action asks for. -/
def Prepared.call?
    (prepared : Prepared)
    (entry : Entry) : Option Call :=
  match prepared.kind with
  | .delete => some (.remove entry)
  | .migrate => some (.migrate entry prepared.parameters)
  | _ => none

/- Whether a store declares that it can make a change. -/
def Call.isOffered
    (capabilities : Capabilities) : Call → Bool
| .remove _ => capabilities.delete
| .migrate _ _ => capabilities.migrate
| _ => false

theorem Prepared.call?_of_delete
    {prepared : Prepared}
    (hKind : prepared.kind = .delete)
    (entry : Entry) :
    prepared.call? entry = some (.remove entry) := by
  unfold call?
  rw [hKind]

theorem Prepared.call?_of_migrate
    {prepared : Prepared}
    (hKind : prepared.kind = .migrate)
    (entry : Entry) :
    prepared.call? entry =
      some (.migrate entry prepared.parameters) := by
  unfold call?
  rw [hKind]

/- No action asks for any other call. -/
theorem Prepared.cases_of_call?
    {prepared : Prepared}
    {entry : Entry}
    {call : Call}
    (hCall : prepared.call? entry = some call) :
    call = .remove entry ∨
      call = .migrate entry prepared.parameters := by
  unfold call? at hCall
  split at hCall
  · exact .inl (Option.some.inj hCall).symm
  · exact .inr (Option.some.inj hCall).symm
  · exact nomatch hCall

------------------------------------------------------------
-- Records
------------------------------------------------------------

namespace Stage

variable {β γ κ μ : Type}

@[simp]
theorem events_record
    (stage : Stage β γ)
    (event : Event Side) :
    (stage.record event).events =
      stage.events ++ [event] :=
  rfl

@[simp]
theorem events_info
    (stage : Stage β γ)
    (text : String) :
    (stage.info text).events = stage.events :=
  rfl

@[simp]
theorem events_warn
    (stage : Stage β γ)
    (text : String) :
    (stage.warn text).events = stage.events :=
  rfl

@[simp]
theorem events_write
    (stage : Stage β γ)
    (text : String) :
    (stage.write text).2.events = stage.events :=
  rfl

variable [Store β κ] [Store γ μ]

/-
  The events of applying a prepared action on a stage: none,
  a change of the live store that fails or succeeds, with a
  repetition on the index if it offers that, or a program.
-/
inductive Deed
    (stage : Stage β γ)
    (prepared : Prepared)
    (entry : Entry) : List (Event Side) → Prop
| nothing : Deed stage prepared entry []
| refused
    {call : Call}
    (hCall : prepared.call? entry = some call) :
    Deed stage prepared entry [.called .live call false]
| alone
    {call : Call}
    (hCall : prepared.call? entry = some call)
    (hIndex :
      call.isOffered (Store.capabilities stage.index) =
        false) :
    Deed stage prepared entry [.called .live call true]
| repeated
    {call : Call}
    (hCall : prepared.call? entry = some call)
    (hIndex :
      call.isOffered (Store.capabilities stage.index) =
        true)
    (success : Bool) :
    Deed stage prepared entry
      [.called .live call true,
        .called .index call success]
| launched
    (hKind : prepared.kind = .command)
    (isStarted : Bool) :
    Deed stage prepared entry
      [.launched entry
        (fillIn prepared.words (stage.placeText entry))
        isStarted]

------------------------------------------------------------
-- Changes Of Stores
------------------------------------------------------------

/-
  What a call on the live store leaves behind: its event, and
  the index as it was.
-/
def CallsLive
    (stage : Stage β γ)
    (call : Call)
    (outcome : Except StoreFault Unit × Stage β γ) : Prop :=
  outcome.2.events =
      stage.events ++
        [.called .live call (succeeded outcome.1)] ∧
    outcome.2.index = stage.index

/- What a call on the index leaves behind: its event. -/
def CallsIndex
    (stage : Stage β γ)
    (call : Call)
    (outcome : Except StoreFault Unit × Stage β γ) : Prop :=
  outcome.2.events =
    stage.events ++
      [.called .index call (succeeded outcome.1)]

theorem callsLive_removeLive
    (stage : Stage β γ)
    (entry : Entry) :
    CallsLive stage (.remove entry)
      (stage.removeLive entry) :=
  ⟨rfl, rfl⟩

theorem callsLive_migrateLive
    (stage : Stage β γ)
    (entry : Entry)
    (parameters : Dictionary String) :
    CallsLive stage (.migrate entry parameters)
      (stage.migrateLive entry parameters) :=
  ⟨rfl, rfl⟩

variable {prepared : Prepared} {entry : Entry} {call : Call}

theorem deed_of_refused
    {stage after : Stage β γ}
    {fault : StoreFault}
    (hCall : prepared.call? entry = some call)
    (hLive : CallsLive stage call (.error fault, after)) :
    ∃ events,
      after.events = stage.events ++ events ∧
      Deed stage prepared entry events :=
  ⟨_, hLive.1, .refused hCall⟩

theorem deed_of_alone
    {stage after : Stage β γ}
    (hCall : prepared.call? entry = some call)
    (hLive : CallsLive stage call (.ok (), after))
    (hIndex :
      ¬ call.isOffered (Store.capabilities after.index) =
        true) :
    ∃ events,
      after.events = stage.events ++ events ∧
      Deed stage prepared entry events := by
  rw [hLive.2] at hIndex
  exact ⟨_, hLive.1,
    .alone hCall (eq_false_of_ne_true hIndex)⟩

theorem deed_of_repeated
    {stage after : Stage β γ}
    {outcome : Except StoreFault Unit × Stage β γ}
    (hCall : prepared.call? entry = some call)
    (hLive : CallsLive stage call (.ok (), after))
    (hIndex :
      call.isOffered (Store.capabilities after.index) =
        true)
    (hOutcome : CallsIndex after call outcome) :
    ∃ events,
      outcome.2.events = stage.events ++ events ∧
      Deed stage prepared entry events := by
  rw [hLive.2] at hIndex
  refine ⟨_, ?_, .repeated hCall hIndex
    (succeeded outcome.1)⟩
  rw [hOutcome, hLive.1, List.append_assoc]
  rfl

theorem deed_of_delete
    (stage : Stage β γ)
    (hCall : prepared.call? entry = some (.remove entry)) :
    ∃ events,
      (stage.delete entry).2.events =
        stage.events ++ events ∧
      Deed stage prepared entry events := by
  have hLive := callsLive_removeLive stage entry
  unfold delete
  generalize stage.removeLive entry = outcome at hLive ⊢
  rcases outcome with ⟨result, after⟩
  cases result with
  | error fault => exact deed_of_refused hCall hLive
  | ok =>
      by_cases hIndex :
          (Store.capabilities after.index).delete = true
      · have hOutcome :
            CallsIndex after (.remove entry)
              (after.removeIndexed entry) := rfl
        have hDeed :=
          deed_of_repeated hCall hLive hIndex hOutcome
        simp only [if_pos hIndex]
        generalize after.removeIndexed entry = last
          at hDeed ⊢
        rcases last with ⟨result, last⟩
        cases result <;> exact hDeed
      · simp only [if_neg hIndex]
        exact deed_of_alone hCall hLive hIndex

theorem deed_of_migrate
    (stage : Stage β γ)
    {parameters : Dictionary String}
    (hCall : prepared.call? entry =
      some (.migrate entry parameters)) :
    ∃ events,
      (stage.migrate entry parameters).2.events =
        stage.events ++ events ∧
      Deed stage prepared entry events := by
  have hLive :=
    callsLive_migrateLive stage entry parameters
  unfold migrate
  generalize stage.migrateLive entry parameters = outcome
    at hLive ⊢
  rcases outcome with ⟨result, after⟩
  cases result with
  | error fault => exact deed_of_refused hCall hLive
  | ok =>
      by_cases hIndex :
          (Store.capabilities after.index).migrate = true
      · have hOutcome :
            CallsIndex after (.migrate entry parameters)
              (after.migrateIndexed entry parameters) := rfl
        have hDeed :=
          deed_of_repeated hCall hLive hIndex hOutcome
        simp only [if_pos hIndex]
        generalize after.migrateIndexed entry parameters =
          last at hDeed ⊢
        rcases last with ⟨result, last⟩
        cases result <;> exact hDeed
      · simp only [if_neg hIndex]
        exact deed_of_alone hCall hLive hIndex

------------------------------------------------------------
-- Actions
------------------------------------------------------------

theorem deed_of_unchanged
    {stage after : Stage β γ}
    (hEvents : after.events = stage.events) :
    ∃ events,
      after.events = stage.events ++ events ∧
      Deed stage prepared entry events := by
  refine ⟨[], ?_, .nothing⟩
  rw [hEvents, List.append_nil]

theorem deed_of_run
    (stage : Stage β γ)
    (launch : Launcher)
    (hKind : prepared.kind = .command) :
    ∃ events,
      (stage.run launch prepared entry).2.events =
        stage.events ++ events ∧
      Deed stage prepared entry events := by
  unfold run
  dsimp only
  split
  · exact deed_of_unchanged rfl
  · exact ⟨_, rfl, .launched hKind _⟩

/- Carrying out an action leaves one of its deeds. -/
theorem deed_of_act
    (stage : Stage β γ)
    (launch : Launcher)
    (prepared : Prepared)
    (entry : Entry) :
    ∃ events,
      (stage.act launch prepared entry).2.events =
        stage.events ++ events ∧
      Deed stage prepared entry events := by
  unfold act
  cases hKind : prepared.kind with
  | delete =>
      exact deed_of_delete stage
        (Prepared.call?_of_delete hKind entry)
  | migrate =>
      exact deed_of_migrate stage
        (Prepared.call?_of_migrate hKind entry)
  | command => exact deed_of_run stage launch hKind
  | log => exact deed_of_unchanged rfl
  | print =>
      have hWrite := events_write stage (entry.path ++ "\n")
      apply deed_of_unchanged
      dsimp only
      generalize stage.write (entry.path ++ "\n") = written
        at hWrite ⊢
      rcases written with ⟨isComplete, after⟩
      cases isComplete <;> exact hWrite
  | count => exact deed_of_unchanged rfl
  | noop => exact deed_of_unchanged rfl

/- Only destructive actions leave events. -/
theorem eq_nil_of_deed
    {stage : Stage β γ}
    {events : List (Event Side)}
    (hKind : prepared.kind.isDestructive = false)
    (hDeed : Deed stage prepared entry events) :
    events = [] := by
  have hCall : prepared.call? entry = none := by
    unfold Prepared.call?
    cases hCase : prepared.kind <;> rw [hCase] at hKind <;>
      first | rfl | exact nomatch hKind
  cases hDeed with
  | nothing => rfl
  | refused h => exact nomatch hCall.symm.trans h
  | alone h => exact nomatch hCall.symm.trans h
  | repeated h => exact nomatch hCall.symm.trans h
  | launched h =>
      rw [h] at hKind
      exact nomatch hKind

/-
  Applying an action leaves one of its deeds too, and in a
  dry run the one that does nothing.
-/
theorem deed_of_apply
    (stage : Stage β γ)
    (launch : Launcher)
    (prepared : Prepared)
    (dryRun : Bool)
    (entry : Entry) :
    ∃ events,
      (stage.apply launch prepared dryRun entry).2.events =
        stage.events ++ events ∧
      Deed stage prepared entry events ∧
      (dryRun = true → events = []) := by
  have hNothing :
      ∀ {after : Stage β γ}, after.events = stage.events →
        ∃ events,
          after.events = stage.events ++ events ∧
          Deed stage prepared entry events ∧
          (dryRun = true → events = []) := by
    intro after hEvents
    refine ⟨[], ?_, .nothing, fun _ => rfl⟩
    rw [hEvents, List.append_nil]
  unfold apply
  split
  · exact hNothing rfl
  · split
    · exact hNothing rfl
    · rename_i hActs
      rcases deed_of_act stage launch prepared entry with
        ⟨events, hEvents, hDeed⟩
      refine ⟨events, hEvents, hDeed, ?_⟩
      intro hDryRun
      apply eq_nil_of_deed _ hDeed
      simpa [hDryRun] using hActs

end Stage

end TreeKeeper
