import TreeKeeper.Proofs.Policy.Ending
import TreeKeeper.Proofs.Store.Files
import TreeKeeper.Proofs.Store.Flushing

/-
  Dry runs.  No action that changes data is carried out, so
  up to its end a dry run leaves both stores and all files
  alone.  Flushing then writes nothing, unless a store had
  changes that its file lacked before the run.

  Key definitions include:
    * `Event.Alters`
    * `Stage.Untouched`

  Main declarations:
    * `Stage.untouched_apply`
    * `Stage.invariant_untouched`
    * `Stage.flush_congr`
    * `Policy.untouched_of_reads`
    * `Policy.run_of_dryRun`
-/

------------------------------------------------------------
-- Events
------------------------------------------------------------

namespace TreeKeeper

/-
  The events by which data would change on either side:
  removing, migrating, and launching a program.
-/
inductive Event.Alters {ι : Type} : Event ι → Prop
| removed
    (place : ι)
    (entry : Entry)
    (success : Bool) :
    Alters (.called place (.remove entry) success)
| migrated
    (place : ι)
    (entry : Entry)
    (parameters : Dictionary String)
    (success : Bool) :
    Alters (.called place (.migrate entry parameters) success)
| launched
    (entry : Entry)
    (words : List String)
    (isStarted : Bool) :
    Alters (.launched entry words isStarted)

theorem Stage.not_alters_of_flushing
    {live index : Bool} :
    ∀ event ∈ flushing live index, ¬ event.Alters := by
  intro event hEvent
  unfold flushing at hEvent
  rw [List.mem_cons, List.mem_singleton] at hEvent
  rcases hEvent with rfl | rfl
  · rintro ⟨⟩
  · rintro ⟨⟩

variable {β γ κ μ : Type}
variable [Store β κ] [Store γ μ]

/- While a dry run handles an entry, data stays as it is. -/
theorem Course.Handles.not_alters
    {policy : Policy}
    {dryRun : Bool}
    {course : Course β γ}
    {stale : Entry}
    {events : List (Event Side)}
    (hDryRun : dryRun = true)
    (hHandles : Handles policy dryRun course stale events) :
    ∀ event ∈ events, ¬ event.Alters := by
  apply hHandles.forall_events fun event => ¬ event.Alters
  · rintro ⟨⟩
  · intro answer success
    rintro ⟨⟩
  · intro prepared entry deed _ hNothing
    rw [hNothing hDryRun]
    exact List.forall_mem_nil _

------------------------------------------------------------
-- Stages
------------------------------------------------------------

namespace Stage

/-
  Whether two stages have the same stores.  The files are the
  same too, unless asking the index for entries changes some.
-/
structure Untouched
    (before after : Stage β γ) : Prop where
  index : after.index = before.index
  live : after.live = before.live
  files :
    Store.KeepsFiles β →
      after.world.SameFiles before.world

namespace Untouched

variable {first second third : Stage β γ}

theorem refl
    (stage : Stage β γ) :
    stage.Untouched stage :=
  ⟨rfl, rfl, fun _ => .refl _⟩

theorem trans
    (hFirst : first.Untouched second)
    (hSecond : second.Untouched third) :
    first.Untouched third where
  index := hSecond.index.trans hFirst.index
  live := hSecond.live.trans hFirst.live
  files := fun hFiles =>
    (hSecond.files hFiles).trans (hFirst.files hFiles)

end Untouched

/- Actions that change no data leave the stores alone. -/
theorem untouched_act
    (stage : Stage β γ)
    (launch : Launcher)
    {prepared : Prepared}
    (entry : Entry)
    (hKind : prepared.kind.isDestructive = false) :
    stage.Untouched
      (stage.act launch prepared entry).2 := by
  unfold act
  cases hCase : prepared.kind with
  | delete =>
      rw [hCase] at hKind
      exact nomatch hKind
  | migrate =>
      rw [hCase] at hKind
      exact nomatch hKind
  | command =>
      rw [hCase] at hKind
      exact nomatch hKind
  | log => exact ⟨rfl, rfl, fun _ => ⟨rfl, rfl⟩⟩
  | print =>
      have hWrite :
          stage.Untouched
            (stage.write (entry.path ++ "\n")).2 :=
        ⟨rfl, rfl, fun _ => .refl _⟩
      dsimp only
      generalize stage.write (entry.path ++ "\n") = written
        at hWrite ⊢
      rcases written with ⟨isComplete, after⟩
      cases isComplete <;> exact hWrite
  | count => exact .refl stage
  | noop => exact .refl stage

/- In a dry run no action touches the stores. -/
theorem untouched_apply
    (stage : Stage β γ)
    (launch : Launcher)
    (prepared : Prepared)
    {dryRun : Bool}
    (entry : Entry)
    (hDryRun : dryRun = true) :
    stage.Untouched
      (stage.apply launch prepared dryRun entry).2 := by
  unfold apply
  rw [hDryRun, Bool.true_and]
  split
  · exact .refl stage
  · by_cases hKind : prepared.kind.isDestructive = true
    · rw [if_pos hKind]
      exact ⟨rfl, rfl, fun _ => ⟨rfl, rfl⟩⟩
    · rw [if_neg hKind]
      apply untouched_act
      simpa using hKind

end Stage

------------------------------------------------------------
-- Reading
------------------------------------------------------------

/- A dry run leaves a stage untouched, step by step. -/
theorem Stage.invariant_untouched
    (policy : Policy)
    (launch : Launcher)
    {dryRun : Bool}
    (first : Stage β γ)
    (hDryRun : dryRun = true) :
    Stage.Invariant policy launch dryRun
      first.Untouched where
  record := fun _ _ hStage =>
    hStage.trans ⟨rfl, rfl, fun _ => .refl _⟩
  warn := fun _ _ hStage =>
    hStage.trans ⟨rfl, rfl, fun _ => ⟨rfl, rfl⟩⟩
  apply := fun stage _ prepared entry _ hStage =>
    hStage.trans
      (stage.untouched_apply launch prepared entry hDryRun)
  fetch := fun _ cursor hStage =>
    hStage.trans
      ⟨rfl, rfl, fun hFiles => hFiles.fetch cursor _⟩

namespace Policy

theorem untouched_query
    (policy : Policy)
    (options : QueryOptions)
    (stage : Stage β γ) :
    stage.Untouched
      (policy.query (policy.queryOptions options)
        (policy.announce stage)).2 where
  index := rfl
  live := rfl
  files := fun hFiles =>
    (hFiles.query _ _ _ _ _).trans ⟨rfl, rfl⟩

/- Up to its end a dry run touches no store. -/
theorem untouched_of_reads
    {policy : Policy}
    {launch : Launcher}
    {options : QueryOptions}
    {stage before : Stage β γ}
    {fault : Option RunFault}
    {stats : RunStats}
    (hDryRun : options.dryRun = true)
    (hReads :
      policy.Reads launch options stage fault stats
        before) :
    stage.Untouched before :=
  holds_of_reads
    (stage.invariant_untouched policy launch hDryRun)
    (untouched_query policy options stage) hReads

end Policy

------------------------------------------------------------
-- Flushing
------------------------------------------------------------

namespace Stage

/-
  Flushing does the same to the same stores and files, as the
  stores never read the log.
-/
theorem flush_congr
    [Store.IgnoresLog β]
    [Store.IgnoresLog γ]
    {first second : Stage β γ}
    (hIndex : first.index = second.index)
    (hLive : first.live = second.live)
    (hWorld : first.world.SameFiles second.world) :
    first.flush.2.index = second.flush.2.index ∧
      first.flush.2.live = second.flush.2.live ∧
      first.flush.2.world.SameFiles second.flush.2.world := by
  rcases flush_eq first with
    ⟨world, hBetween, hFirstLive, hFirstIndex, hFirst⟩
  rcases flush_eq second with
    ⟨other, hOther, hSecondLive, hSecondIndex, hSecond⟩
  have hLiveFlush :=
    Store.IgnoresLog.flush first.live hWorld
  rw [← hLive] at hOther hSecondLive
  have hWorlds : world.SameFiles other :=
    (hBetween.trans hLiveFlush.files).trans hOther.symm
  have hIndexFlush :=
    Store.IgnoresLog.flush first.index hWorlds
  rw [← hIndex] at hSecondIndex hSecond
  refine ⟨?_, ?_, ?_⟩
  · rw [hFirstIndex, hSecondIndex, hIndexFlush.store]
  · rw [hFirstLive, hSecondLive, hLiveFlush.store]
  · exact (hFirst.trans hIndexFlush.files).trans hSecond.symm

/- Flushing writes what a store lacks in its file only. -/
theorem flush_opened
    (stage : Stage OpenedStore OpenedStore) :
    let after := stage.flush.2
    OpenedStore.Alike stage.index after.index ∧
      OpenedStore.Alike stage.live after.live ∧
      (¬ stage.index.IsUnsaved →
        after.index = stage.index) ∧
      (¬ stage.live.IsUnsaved →
        after.live = stage.live) ∧
      (¬ stage.index.IsUnsaved → ¬ stage.live.IsUnsaved →
        after.world.tree = stage.world.tree) := by
  rcases flush_eq stage with
    ⟨world, hWorld, hLive, hIndex, hFinal⟩
  intro after
  rw [hLive, hIndex, hFinal.tree]
  refine ⟨OpenedStore.alike_flush _ _,
    OpenedStore.alike_flush _ _, ?_, ?_, ?_⟩
  · intro hSaved
    rw [OpenedStore.flush_of_saved hSaved]
  · intro hSaved
    rw [OpenedStore.flush_of_saved hSaved]
  · intro hFirst hSecond
    rw [OpenedStore.flush_of_saved hFirst, hWorld.tree,
      OpenedStore.flush_of_saved hSecond]

end Stage

------------------------------------------------------------
-- Dry Runs
------------------------------------------------------------

namespace Policy

/-
  A dry run is flushing and nothing else, as far as stores and
  files are concerned.
-/
theorem exists_untouched_of_run
    {options : QueryOptions}
    (policy : Policy)
    (launch : Launcher)
    (stage : Stage β γ)
    (hDryRun : options.dryRun = true) :
    let final := (policy.run launch options stage).2
    stage.Adds (fun event => ¬ event.Alters) final ∧
    ∃ before : Stage β γ,
      stage.Untouched before ∧
      final.index = before.flush.2.index ∧
      final.live = before.flush.2.live ∧
      final.world.SameFiles before.flush.2.world := by
  rcases exists_reads_of_run policy launch options stage with
    ⟨fault, stats, before, hReads, hRun⟩
  have hAdds :
      stage.Adds (fun event => ¬ event.Alters) before := by
    apply adds_of_reads _ _ hReads
    · intro success
      rintro ⟨⟩
    · intro course stale events hHandles
      exact hHandles.not_alters hDryRun
  intro final
  have hFinal :
      final = (policy.close fault stats before).2 :=
    congrArg Prod.snd hRun
  have hFlushes :
      before.Adds (fun event => ¬ event.Alters)
        (policy.close fault stats before).2 := by
    have hClose := events_close policy fault stats before
    exact ⟨_, hClose, Stage.not_alters_of_flushing⟩
  rcases close_keeps policy fault stats before with
    ⟨hIndex, hLive, hWorld⟩
  rw [hFinal]
  exact ⟨hAdds.trans hFlushes, before,
    untouched_of_reads hDryRun hReads, hIndex, hLive, hWorld⟩

/-
  Dry runs are harmless.  On any stores, nothing is removed or
  migrated on either side and no program is started, and the
  stores and files end as flushing leaves them.  For opened
  stores it is as if they had been flushed and nothing else.
  Directories and snapshots thus keep their entries, and no
  file changes at all unless a snapshot had changes to save
  beforehand, which none has that was just opened.
-/
theorem run_of_dryRun
    (policy : Policy)
    (launch : Launcher)
    {options : QueryOptions}
    (hDryRun : options.dryRun = true) :
    (∀ {β γ κ μ : Type} [Store β κ] [Store γ μ]
      (stage : Stage β γ),
      let final := (policy.run launch options stage).2
      stage.Adds (fun event => ¬ event.Alters) final ∧
      ∃ before : Stage β γ,
        stage.Untouched before ∧
        final.index = before.flush.2.index ∧
        final.live = before.flush.2.live ∧
        final.world.SameFiles before.flush.2.world) ∧
    (∀ stage : Stage OpenedStore OpenedStore,
      let final := (policy.run launch options stage).2
      (final.index = stage.flush.2.index ∧
        final.live = stage.flush.2.live ∧
        final.world.SameFiles stage.flush.2.world) ∧
      OpenedStore.Alike stage.index final.index ∧
      OpenedStore.Alike stage.live final.live ∧
      (¬ stage.index.IsUnsaved →
        final.index = stage.index) ∧
      (¬ stage.live.IsUnsaved →
        final.live = stage.live) ∧
      (¬ stage.index.IsUnsaved → ¬ stage.live.IsUnsaved →
        final.world.tree = stage.world.tree)) ∧
    (∀ (uri : Uri) world store,
      uri.open world = .ok store → ¬ store.IsUnsaved) := by
  refine ⟨?_, ?_, fun _ _ _ => Uri.not_isUnsaved_of_open⟩
  · intro β γ κ μ _ _ stage
    exact exists_untouched_of_run policy launch stage hDryRun
  · intro stage final
    rcases exists_untouched_of_run policy launch stage
        hDryRun with
      ⟨_, before, hBefore, hIndex, hLive, hWorld⟩
    rcases Stage.flush_congr hBefore.index hBefore.live
        (hBefore.files OpenedStore.keepsFiles) with
      ⟨hSameIndex, hSameLive, hSameWorld⟩
    have hFinalIndex := hIndex.trans hSameIndex
    have hFinalLive := hLive.trans hSameLive
    have hFinalWorld := hWorld.trans hSameWorld
    refine ⟨⟨hFinalIndex, hFinalLive, hFinalWorld⟩, ?_⟩
    rw [hFinalIndex, hFinalLive, hFinalWorld.tree]
    exact stage.flush_opened

/- A policy that deletes all entries, tried out on a file. -/
theorem run_of_dryRun_delete :
    let policy : Policy :=
      ⟨"purge", none, [], [], ⟨.delete, Dictionary.empty⟩⟩
    let snapshot : Snapshot :=
      { path := some "/index"
        entries := [.ofPath "/a.tmp" { size := 2048 }] }
    let stage : Stage OpenedStore OpenedStore :=
      { index := .inr snapshot
        live := .inr snapshot
        out := {}
        world := {} }
    let launch : Launcher :=
      fun world _ => (.error .noWords, world)
    let dry := policy.run launch { dryRun := true } stage
    let real := policy.run launch {} stage
    (dry.2.live = stage.live ∧
      dry.2.world.tree = stage.world.tree) ∧
    (dry.1.map RunStats.applied).toOption = some 1 ∧
    ¬ OpenedStore.Alike stage.live real.2.live := by
  intro policy snapshot stage launch dry real
  have hSaved : ¬ stage.live.IsUnsaved := by
    rintro ⟨hChanged, _⟩
    exact nomatch hChanged
  have hDryRun :
      ({ dryRun := true } : QueryOptions).dryRun = true :=
    rfl
  have hHarmless := (run_of_dryRun policy launch hDryRun).2.1
  rcases hHarmless stage with ⟨_, _, _, _, hLive, hTree⟩
  refine ⟨⟨hLive hSaved, hTree hSaved hSaved⟩, ?_, ?_⟩
  · decide +kernel
  · intro hAlike
    exact nomatch hAlike.2

/-
  A dry run that rewrites a file all the same.  The snapshot
  lost an entry before it, and only flushing saves the change.
-/
theorem run_of_dryRun_unsaved :
    let policy : Policy :=
      ⟨"keep", none, [], [], ⟨.noop, Dictionary.empty⟩⟩
    let entry : Entry := .ofPath "/a.tmp" { size := 2048 }
    let tree :=
      (FileTree.empty.put? ["index"]
        (.file FileTree.newFile
          (Snapshot.textOf [entry]))).getD .empty
    let snapshot : Snapshot := .ofEntries "/index" [entry]
    let changed := snapshot.remove "/a.tmp"
    let stage : Stage OpenedStore OpenedStore :=
      { index := .inr changed
        live := .inr changed
        out := {}
        world := { tree := tree } }
    let launch : Launcher :=
      fun world _ => (.error .noWords, world)
    let final :=
      (policy.run launch { dryRun := true } stage).2
    let before := tree.readText [] "/index"
    let after := final.world.tree.readText [] "/index"
    before.toOption = some (Snapshot.textOf [entry]) ∧
      after.toOption = some "" ∧
      Snapshot.textOf [entry] ≠ "" := by
  decide +kernel

end Policy

end TreeKeeper
