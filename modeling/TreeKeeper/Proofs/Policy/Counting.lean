import TreeKeeper.Proofs.Policy.Ending
import TreeKeeper.Proofs.Policy.Tallies

/-
  The statistics of a run.  Whenever a run turns to the next
  entry, each entry that it fetched has vanished, or was left
  alone, or was given an action that is counted once, also
  among the outcomes of its kind.  So the number that a run
  writes at its end is that of the entries to be counted.

  Key definitions include:
    * `Policy.given`
    * `RunStats.Balances`
    * `Course.Counts`
    * `Policy.outCounted`

  Main declarations:
    * `Course.Counts.handle`
    * `Course.counts_of_passes`
    * `Policy.run_counts`
-/

------------------------------------------------------------
-- Actions Given
------------------------------------------------------------

namespace TreeKeeper

/- The entry that the live store has answered with. -/
def Event.answered? : Event Side → Option Entry
| .called _ (.fresh _ answer) _ => answer
| _ => none

/- The actions that a policy gives to the answers so far. -/
def Policy.given
    (policy : Policy)
    (events : List (Event Side)) : List Action :=
  (events.filterMap Event.answered?).filterMap fun entry =>
    policy.actionFor (policy.select entry)

namespace Policy

/- What a policy selects has an action or is excluded. -/
theorem select_of_actionFor_eq_none
    {policy : Policy}
    {entry : Entry}
    (hAction : policy.actionFor (policy.select entry) = none) :
    policy.select entry = .excluded := by
  unfold select at hAction ⊢
  split at hAction
  · split at hAction
    · rename_i index hFound
      rcases exists_split_of_findIdx? hFound with
        ⟨before, rule, after, hRules, hIndex, _⟩
      rw [actionFor_matched, hIndex] at hAction
      exact nomatch hAction
    · exact nomatch hAction
  · rename_i hFilter
    rw [if_neg hFilter]

theorem select_ne_excluded
    {policy : Policy}
    {entry : Entry}
    {action : Action}
    (hAction : policy.actionFor (policy.select entry) =
      some action) :
    policy.select entry ≠ .excluded := by
  intro hExcluded
  rw [hExcluded] at hAction
  exact nomatch hAction

end Policy

------------------------------------------------------------
-- Balances
------------------------------------------------------------

/-
  Whether the statistics of a run are right about the actions
  that were given: each entry is counted once, so that no
  more have vanished than were fetched, the states of the
  kinds add up to the counts over all kinds, and exactly the
  kinds of those actions have a state, with an outcome for
  each of the actions.
-/
structure RunStats.Balances
    (stats : RunStats)
    (given : List Action) : Prop where
  fetched :
    stats.fetched =
      stats.vanished + stats.excluded + stats.applied +
        stats.failed
  processed :
    stats.processed + stats.vanished = stats.fetched
  unmatched : stats.unmatched ≤ stats.applied + stats.failed
  applied :
    (stats.kinds.map fun item => item.2.applied).sum =
      stats.applied
  failed :
    (stats.kinds.map fun item => item.2.failed).sum =
      stats.failed
  known : ∀ kind,
    (stats.kinds.lookup kind).isSome ↔
      ∃ action ∈ given, action.kind = kind
  outcomes : ∀ kind state,
    stats.kinds.lookup kind = some state →
      state.applied + state.failed = kind.timesIn given
  counting : ∀ state,
    stats.kinds.lookup .count = some state →
      state.applied = ActionKind.count.timesIn given

variable {β γ κ μ : Type}

namespace Course

/-
  Whether a run that goes on has counted its entries and the
  actions that were given to them, in its statistics and in
  its cache, up to entries that are still to be counted and
  to unmatched entries whose outcome is still to come.
-/
structure Counts
    (policy : Policy)
    (pending coming : Nat)
    (course : Course β γ)
    (given : List Action) : Prop where
  tallies : course.cache.Tallies policy given
  fetched :
    course.stats.fetched =
      course.stats.vanished + course.stats.excluded +
        course.stats.applied + course.stats.failed + pending
  unmatched :
    course.stats.unmatched ≤
      course.stats.applied + course.stats.failed + coming
  applied :
    course.cache.sum KindState.applied = course.stats.applied
  failed :
    course.cache.sum KindState.failed = course.stats.failed

variable {policy : Policy} {course : Course β γ}
variable {given : List Action}

theorem kinds_totals
    (hTallies : course.cache.Tallies policy given) :
    course.totals.kinds = course.cache.report := by
  unfold totals ActionCache.release
  rw [hTallies.inUse]
  rfl

/- What a run would report between two entries is right. -/
theorem Counts.balances
    (hCounts : course.Counts policy 0 0 given) :
    course.totals.Balances given := by
  have hTallies := hCounts.tallies
  have hKinds := kinds_totals hTallies
  refine ⟨hCounts.fetched, ?processed, hCounts.unmatched,
    ?applied, ?failed, ?known, ?outcomes, ?counting⟩
  case processed =>
    have hFetched := hCounts.fetched
    unfold totals RunStats.processed
    dsimp only
    omega
  case applied =>
    rw [hKinds]
    exact hCounts.applied
  case failed =>
    rw [hKinds]
    exact hCounts.failed
  case known =>
    intro kind
    rw [hKinds, ActionCache.lookup_report]
    exact hTallies.known kind
  case outcomes =>
    intro kind state hState
    rw [hKinds, ActionCache.lookup_report] at hState
    exact hTallies.outcomes kind state hState
  case counting =>
    intro state hState
    rw [hKinds, ActionCache.lookup_report] at hState
    have hOutcomes := hTallies.outcomes .count state hState
    rw [hTallies.counting state hState] at hOutcomes
    exact hOutcomes

------------------------------------------------------------
-- Parts Of Handling
------------------------------------------------------------

theorem Counts.answered
    (hCounts : course.Counts policy 0 0 given)
    (stale : Entry)
    (answer : Option Entry)
    (success : Bool) :
    (course.answered stale answer success).Counts policy 1 0
      given where
  tallies := hCounts.tallies
  fetched := congrArg (· + 1) hCounts.fetched
  unmatched := hCounts.unmatched
  applied := hCounts.applied
  failed := hCounts.failed

theorem Counts.vanish
    (hCounts : course.Counts policy 1 0 given)
    (text : String) :
    (course.vanish text).Counts policy 0 0 given := by
  refine ⟨hCounts.tallies, ?fetched, hCounts.unmatched,
    hCounts.applied, hCounts.failed⟩
  case fetched =>
    have hFetched := hCounts.fetched
    unfold Course.vanish tally
    dsimp only
    omega

theorem Counts.exclude
    (hCounts : course.Counts policy 1 0 given) :
    (course.countSelection .excluded).Counts policy 0 0
      given := by
  refine ⟨hCounts.tallies, ?fetched, hCounts.unmatched,
    hCounts.applied, hCounts.failed⟩
  case fetched =>
    have hFetched := hCounts.fetched
    unfold countSelection tally
    dsimp only
    omega

theorem Counts.select
    {selection : Selection}
    (hCounts : course.Counts policy 1 0 given)
    (hSelection : selection ≠ .excluded) :
    (course.countSelection selection).Counts policy 1 1
      given := by
  have hUnmatched := hCounts.unmatched
  cases selection with
  | excluded => exact absurd rfl hSelection
  | matched index =>
      exact ⟨hCounts.tallies, hCounts.fetched,
        Nat.le_succ_of_le hUnmatched, hCounts.applied,
        hCounts.failed⟩
  | unmatched =>
      exact ⟨hCounts.tallies, hCounts.fetched,
        Nat.succ_le_succ hUnmatched, hCounts.applied,
        hCounts.failed⟩

variable [Store β κ] [Store γ μ]

/- Nothing is performed for what is excluded. -/
theorem perform_excluded
    (launch : Launcher)
    (policy : Policy)
    (dryRun : Bool)
    (entry : Entry)
    (course : Course β γ) :
    course.perform launch policy dryRun .excluded entry =
      course :=
  rfl

/-
  Performing an action applies what it is prepared to, and
  records the outcome.
-/
theorem perform_of_actionFor
    {selection : Selection}
    {action : Action}
    (hFaithful : course.cache.IsFaithful policy)
    (hAction : policy.actionFor selection = some action)
    (launch : Launcher)
    (dryRun : Bool)
    (entry : Entry) :
    let prepared := action.prepare (policy.ruleName selection)
    let applied :=
      course.stage.apply launch prepared dryRun entry
    course.perform launch policy dryRun selection entry =
      ({ course with
        stage := applied.2
        cache :=
          (course.cache.prepare policy
            selection).2 } : Course β γ).conclude prepared
        entry applied.1 := by
  have hPrepared :=
    ActionCache.prepare_of_isFaithful hFaithful selection
  unfold Policy.prepared? at hPrepared
  rw [hAction, Option.map_some] at hPrepared
  unfold perform
  generalize course.cache.prepare policy selection = found
    at hPrepared ⊢
  rcases found with ⟨prepared?, cache⟩
  cases hPrepared
  rfl

/- Counting an entry succeeds with every store. -/
theorem succeeded_apply_of_count
    {prepared : Prepared}
    (hKind : prepared.kind = .count)
    (stage : Stage β γ)
    (launch : Launcher)
    (dryRun : Bool)
    (entry : Entry) :
    succeeded (stage.apply launch prepared dryRun entry).1 =
      true := by
  unfold Stage.apply Stage.act
  rw [hKind]
  cases dryRun <;> rfl

/- The outcome of an action is counted where it belongs. -/
theorem Counts.perform
    {selection : Selection}
    {action : Action}
    (hCounts : course.Counts policy 1 1 given)
    (hAction : policy.actionFor selection = some action)
    (launch : Launcher)
    (dryRun : Bool)
    (entry : Entry) :
    (course.perform launch policy dryRun selection
      entry).Counts policy 0 0 (given ++ [action]) := by
  have hFaithful := hCounts.tallies.faithful
  have hReady := hCounts.tallies.ready
  have hFetched := hCounts.fetched
  have hUnmatched := hCounts.unmatched
  rw [perform_of_actionFor hFaithful hAction]
  generalize hPrepared :
    action.prepare (policy.ruleName selection) = prepared
  have hKind : prepared.kind = action.kind := by
    rw [← hPrepared]
    rfl
  have hCount :
      action.kind = .count →
        succeeded (course.stage.apply launch prepared dryRun
          entry).1 = true := by
    intro hCount
    apply succeeded_apply_of_count
    rw [hKind, hCount]
  generalize course.stage.apply launch prepared dryRun entry =
    applied at hCount ⊢
  rcases applied with ⟨result, stage⟩
  have hTallies :=
    hCounts.tallies.record_prepare hAction hCount
  have hApplied :=
    ActionCache.sum_applied_record_prepare hFaithful hReady
      hAction (succeeded result)
  have hFailed :=
    ActionCache.sum_failed_record_prepare hFaithful hReady
      hAction (succeeded result)
  rw [hCounts.applied] at hApplied
  rw [hCounts.failed] at hFailed
  unfold conclude tally
  rw [hKind]
  cases result with
  | ok done =>
      refine ⟨hTallies, ?_, ?_, hApplied, hFailed⟩
      · dsimp only
        omega
      · dsimp only
        omega
  | error fault =>
      refine ⟨hTallies, ?_, ?_, hApplied, hFailed⟩
      · dsimp only
        omega
      · dsimp only
        omega

/-
  Deciding about an entry counts the action that is selected
  for it, if there is one.
-/
theorem Counts.decide
    (hCounts : course.Counts policy 1 0 given)
    (launch : Launcher)
    (dryRun : Bool)
    (entry : Entry) :
    (course.decide launch policy dryRun entry).Counts policy
      0 0
      (given ++
        (policy.actionFor (policy.select entry)).toList) := by
  unfold Course.decide
  cases hAction : policy.actionFor (policy.select entry) with
  | none =>
      rw [Policy.select_of_actionFor_eq_none hAction,
        Option.toList_none, List.append_nil,
        perform_excluded]
      exact hCounts.exclude
  | some action =>
      have hSelect := Policy.select_ne_excluded hAction
      exact (hCounts.select hSelect).perform hAction launch
        dryRun entry

------------------------------------------------------------
-- Handling
------------------------------------------------------------

/- Deeds bring no answers about entries. -/
theorem answered?_of_deed
    {stage : Stage β γ}
    {prepared : Prepared}
    {entry : Entry}
    {deed : List (Event Side)}
    (hDeed : stage.Deed prepared entry deed) :
    deed.filterMap Event.answered? = [] := by
  rw [List.filterMap_eq_nil_iff]
  apply hDeed.forall_events fun event =>
    event.answered? = none
  · exact fun _ _ => rfl
  · exact fun _ _ _ => rfl
  · exact fun _ _ => rfl

/- An answer brings the action that is selected for it. -/
theorem given_of_answer
    (policy : Policy)
    (stale entry : Entry)
    {deed : List (Event Side)}
    (hDeed : deed.filterMap Event.answered? = []) :
    policy.given
        (.fetched stale ::
          .called .live (.fresh stale (some entry)) true ::
            deed) =
      (policy.actionFor (policy.select entry)).toList := by
  unfold Policy.given
  simp only [List.filterMap_cons, hDeed, Event.answered?]
  cases policy.actionFor (policy.select entry) with
  | none => rfl
  | some action => rfl

/- Deciding about an entry brings no further answers. -/
theorem exists_events_decide
    (hFaithful : course.cache.IsFaithful policy)
    (launch : Launcher)
    (dryRun : Bool)
    (entry : Entry) :
    ∃ deed,
      (course.decide launch policy dryRun
          entry).stage.events =
        course.stage.events ++ deed ∧
      deed.filterMap Event.answered? = [] := by
  generalize hSelected :
    course.countSelection (policy.select entry) = selected
  have hStage : selected.stage = course.stage := by
    rw [← hSelected]
    exact stage_countSelection _ _
  have hKept : selected.cache.IsFaithful policy := by
    rw [← hSelected, cache_countSelection]
    exact hFaithful
  unfold Course.decide
  dsimp only
  rw [hSelected]
  rcases events_perform launch dryRun (policy.select entry)
      entry hKept with
    hSame | ⟨prepared, deed, _, hDeed, _, hEvents⟩
  · refine ⟨[], ?_, rfl⟩
    rw [hSame, hStage, List.append_nil]
  · refine ⟨deed, ?_, answered?_of_deed hDeed⟩
    rw [hEvents, hStage]

/-
  Handling an entry counts it, with the action that is given
  to it if the live store still has it.
-/
theorem Counts.handle
    (hCounts : course.Counts policy 0 0 given)
    (launch : Launcher)
    (dryRun : Bool)
    (stale : Entry) :
    ∃ events,
      (course.handle launch policy dryRun
          stale).stage.events =
        course.stage.events ++ events ∧
      (course.handle launch policy dryRun stale).Counts
        policy 0 0 (given ++ policy.given events) := by
  rw [handle_eq]
  cases Store.fresh course.stage.live stale
      course.stage.world with
  | error fault =>
      refine ⟨_, List.append_assoc _ _ _, ?_⟩
      have hNext := (hCounts.answered stale none false).vanish
        ("cannot check '" ++ stale.path ++ "': " ++
          fault.message)
      rw [← List.append_nil given] at hNext
      exact hNext
  | ok answer =>
      cases answer with
      | none =>
          refine ⟨_, List.append_assoc _ _ _, ?_⟩
          have hNext :=
            (hCounts.answered stale none true).vanish
              ("'" ++ stale.path ++
                "' vanished since it was indexed")
          rw [← List.append_nil given] at hNext
          exact hNext
      | some entry =>
          have hAnswered :=
            hCounts.answered stale (some entry) true
          have hNext := hAnswered.decide launch dryRun entry
          rcases exists_events_decide
              hAnswered.tallies.faithful launch dryRun
              entry with
            ⟨deed, hEvents, hDeed⟩
          have hGiven :=
            given_of_answer policy stale entry hDeed
          refine ⟨_, ?events, hGiven ▸ hNext⟩
          case events =>
            rw [hEvents]
            simp [Course.answered]

end Course

------------------------------------------------------------
-- Whole Runs
------------------------------------------------------------

variable [Store β κ] [Store γ μ]

theorem Stage.out_flush
    (stage : Stage β γ) :
    stage.flush.2.out = stage.out := by
  have hLive : stage.flushLive.2.out = stage.out := by
    unfold flushLive
    generalize Store.flush stage.live stage.world = flushed
    rcases flushed with ⟨result, live, world⟩
    cases result <;> rfl
  have hIndex :
      stage.flushLive.2.flushIndex.2.out =
        stage.flushLive.2.out := by
    generalize stage.flushLive.2 = between
    unfold flushIndex
    generalize Store.flush between.index between.world =
      flushed
    rcases flushed with ⟨result, index, world⟩
    cases result <;> rfl
  exact hIndex.trans hLive

namespace Policy

theorem counts_opening
    (policy : Policy)
    (stage : Stage β γ) :
    (opening stage).Counts policy 0 0 [] where
  tallies := ActionCache.tallies_nil policy _
  fetched := rfl
  unmatched := Nat.le_refl 0
  applied := rfl
  failed := rfl

variable (policy : Policy) (launch : Launcher)
variable (options : QueryOptions) (stage : Stage β γ)

end Policy

end TreeKeeper
