import TreeKeeper.Proofs.Policy.Ending
import TreeKeeper.Proofs.Store.Flushing

/-
  Releasing the stores of a run.  Whatever becomes of the
  query, the entries and the output, the live store is flushed
  once and then the index is flushed once, and nothing is
  asked of them any more.  The first fault counts: the one of
  reading the index, then those of flushing, then the one of
  the output.

  Main declarations:
    * `Course.Handles.not_isFlush`
    * `Policy.run_flushes_both`
-/

------------------------------------------------------------
-- Flush Calls
------------------------------------------------------------

namespace TreeKeeper

variable {β γ κ μ : Type}
variable [Store β κ] [Store γ μ]

/- No action flushes a store. -/
theorem Stage.Deed.not_isFlush
    {stage : Stage β γ}
    {prepared : Prepared}
    {entry : Entry}
    {events : List (Event Side)}
    (hDeed : stage.Deed prepared entry events) :
    ∀ event ∈ events, ¬ event.IsFlush := by
  apply hDeed.forall_events fun event => ¬ event.IsFlush
  · intro side success
    rintro ⟨⟩
  · intro side parameters success
    rintro ⟨⟩
  · intro words isStarted
    rintro ⟨⟩

/- No store is flushed while an entry is handled. -/
theorem Course.Handles.not_isFlush
    {policy : Policy}
    {dryRun : Bool}
    {course : Course β γ}
    {stale : Entry}
    {events : List (Event Side)}
    (hHandles : Handles policy dryRun course stale events) :
    ∀ event ∈ events, ¬ event.IsFlush := by
  apply hHandles.forall_events fun event => ¬ event.IsFlush
  · rintro ⟨⟩
  · intro answer success
    rintro ⟨⟩
  · intro prepared entry deed hDeed _
    exact hDeed.not_isFlush

------------------------------------------------------------
-- Closing
------------------------------------------------------------

namespace Policy

variable (policy : Policy) (launch : Launcher)
variable (options : QueryOptions) (stage : Stage β γ)

/-
  A run ends by flushing the live store and then the index.
  Neither was flushed before, each is flushed once although
  the other may fail, and no call follows.  The result is the
  fault of the query or its cursor, or else that of the live
  store, or else that of the index, or else that of the output
  if the number of counted entries cannot be written.
-/
theorem run_flushes_both :
    ∃ fault stats before,
      policy.Reads launch options stage fault stats before ∧
      stage.Adds (fun event => ¬ event.IsFlush) before ∧
      (policy.run launch options stage).2.events =
        before.events ++
          Stage.flushing before.flushLive.1.isNone
            before.flushLive.2.flushIndex.1.isNone ∧
      (policy.run launch options stage).1 =
        match
          fault.or
            (before.flushLive.1.or
              before.flushLive.2.flushIndex.1) with
        | some fault => .error fault
        | none =>
            if (writeCount stats before.flush.2).1 then
              .ok stats
            else .error .output := by
  rcases exists_reads_of_run policy launch options stage with
    ⟨fault, stats, before, hReads, hRun⟩
  have hAdds :
      stage.Adds (fun event => ¬ event.IsFlush) before := by
    apply adds_of_reads _ _ hReads
    · intro success
      rintro ⟨⟩
    · intro course stale events hHandles
      exact hHandles.not_isFlush
  refine ⟨fault, stats, before, hReads, hAdds, ?_, ?_⟩
  · rw [hRun, events_close]
  · have hFlush :
        before.flush.1 =
          before.flushLive.1.or
            before.flushLive.2.flushIndex.1 := rfl
    rw [hRun, ← hFlush]
    unfold close
    cases fault.or before.flush.1 with
    | some fault => rfl
    | none => exact fst_finish policy stats before.flush.2

end Policy

end TreeKeeper
