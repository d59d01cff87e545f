import TreeKeeper.Proofs.Policy.DryRun
import TreeKeeper.Proofs.Store.Saving

/-
  Runs whose index and live store are copies of one snapshot
  file, as on a command line that names no live store.  What
  is done to the live copy is repeated on the other one, so
  the copies stay equal, and the last one to be written does
  not undo what the first one wrote.

  Key definitions include:
    * `Event.IsApplied`
    * `Event.FailsFlush`
    * `Launcher.KeepsFiles`
    * `Policy.HasCommands`
    * `Snapshot.IsVersion`
    * `Stage.SharesFile`

  Main declarations:
    * `Stage.invariant_sharesFile`
    * `Stage.SharesFile.load_flush`
    * `Policy.run_of_shared_file`
-/

------------------------------------------------------------
-- Events
------------------------------------------------------------

namespace TreeKeeper

/-
  The events by which a deletion or a migration is applied to
  the live store.
-/
inductive Event.IsApplied : Event Side → Prop
| removed
    (entry : Entry) :
    IsApplied (.called .live (.remove entry) true)
| migrated
    (entry : Entry)
    (parameters : Dictionary String) :
    IsApplied (.called .live (.migrate entry parameters) true)

instance
    (event : Event Side) :
    Decidable event.IsApplied :=
  match event with
  | .called .live (.remove entry) true =>
      .isTrue (.removed entry)
  | .called .live (.migrate entry parameters) true =>
      .isTrue (.migrated entry parameters)
  | .called .live (.remove _) false => .isFalse nofun
  | .called .live (.migrate _ _) false => .isFalse nofun
  | .called .live (.query _ _) _ => .isFalse nofun
  | .called .live (.fresh _ _) _ => .isFalse nofun
  | .called .live .flush _ => .isFalse nofun
  | .called .index _ _ => .isFalse nofun
  | .fetched _ => .isFalse nofun
  | .launched _ _ _ => .isFalse nofun

/- The events of flushing a store in vain. -/
inductive Event.FailsFlush {ι : Type} : Event ι → Prop
| intro (place : ι) : FailsFlush (.called place .flush false)

instance
    {ι : Type}
    (event : Event ι) :
    Decidable event.FailsFlush :=
  match event with
  | .called place .flush false => .isTrue ⟨place⟩
  | .called _ .flush true => .isFalse nofun
  | .called _ (.query _ _) _ => .isFalse nofun
  | .called _ (.fresh _ _) _ => .isFalse nofun
  | .called _ (.remove _) _ => .isFalse nofun
  | .called _ (.migrate _ _) _ => .isFalse nofun
  | .fetched _ => .isFalse nofun
  | .launched _ _ _ => .isFalse nofun

theorem Stage.eq_true_of_flushing
    {live index : Bool}
    (hFlushed :
      ∀ event ∈ flushing live index, ¬ event.FailsFlush) :
    live = true ∧ index = true := by
  cases live with
  | false =>
      exact absurd (.intro Side.live)
        (hFlushed _ List.mem_cons_self)
  | true =>
      cases index with
      | false =>
          exact absurd (.intro Side.index)
            (hFlushed _ (List.mem_cons_of_mem _
              List.mem_cons_self))
      | true => exact ⟨rfl, rfl⟩

------------------------------------------------------------
-- Commands
------------------------------------------------------------

/- Whether all programs leave the files as they are. -/
def Launcher.KeepsFiles (launch : Launcher) : Prop :=
  ∀ world words, (launch world words).2.SameFiles world

theorem Launcher.KeepsFiles.start
    {launch : Launcher}
    (hLaunch : launch.KeepsFiles)
    (world : World)
    (words : List String) :
    (launch.start world words).2.SameFiles world := by
  unfold Launcher.start
  split
  · exact .refl world
  · exact hLaunch world words

/- Whether some part of a policy asks for a command. -/
def Policy.HasCommands (policy : Policy) : Prop :=
  ∃ selection action,
    policy.actionFor selection = some action ∧
      action.kind = .command

/- Only a policy with commands prepares one. -/
theorem Policy.hasCommands_of_prepared
    {policy : Policy}
    {selection : Selection}
    {prepared : Prepared}
    (hPrepared :
      policy.prepared? selection = some prepared)
    (hKind : prepared.kind = .command) :
    policy.HasCommands := by
  rcases Option.map_eq_some_iff.1 hPrepared with
    ⟨action, hAction, rfl⟩
  exact ⟨selection, action, hAction, hKind⟩

------------------------------------------------------------
-- Versions Of Snapshots
------------------------------------------------------------

/-
  Whether a snapshot is what was loaded from a file, or comes
  from it by changes, of which it is marked and some event
  tells.
-/
inductive Snapshot.IsVersion
    (path : String)
    (entries : List Entry)
    (events : List (Event Side)) : Snapshot → Prop
| loaded :
    IsVersion path entries events (ofEntries path entries)
| changed
    {snapshot : Snapshot}
    {event : Event Side}
    (hPath : snapshot.path = some path)
    (hChanged : snapshot.isChanged = true)
    (hEvent : event ∈ events)
    (hApplied : event.IsApplied) :
    IsVersion path entries events snapshot

namespace Snapshot.IsVersion

variable {path : String} {entries : List Entry}
variable {events more : List (Event Side)}
variable {snapshot : Snapshot}

theorem path_eq
    (hVersion : snapshot.IsVersion path entries events) :
    snapshot.path = some path := by
  cases hVersion with
  | loaded => rfl
  | changed hPath => exact hPath

theorem mono
    (hEvents : events ⊆ more)
    (hVersion : snapshot.IsVersion path entries events) :
    snapshot.IsVersion path entries more := by
  cases hVersion with
  | loaded => exact .loaded
  | changed hPath hChanged hEvent hApplied =>
      exact .changed hPath hChanged (hEvents hEvent) hApplied

/- Without a mark of changes it has the entries of the file. -/
theorem entries_eq
    (hVersion : snapshot.IsVersion path entries events)
    (hUnchanged : snapshot.isChanged = false) :
    entries = snapshot.entries := by
  cases hVersion with
  | loaded => rfl
  | changed _ hChanged =>
      exact nomatch hUnchanged.symm.trans hChanged

/- Without an event of changes it is as it was loaded. -/
theorem eq_ofEntries
    (hVersion : snapshot.IsVersion path entries events)
    (hNone : ∀ event ∈ events, ¬ event.IsApplied) :
    snapshot = ofEntries path entries := by
  cases hVersion with
  | loaded => rfl
  | changed _ _ hEvent hApplied =>
      exact absurd hApplied (hNone _ hEvent)

theorem remove
    {event : Event Side}
    (hVersion : snapshot.IsVersion path entries events)
    (hEvents : events ⊆ more)
    (hEvent : event ∈ more)
    (hApplied : event.IsApplied)
    (removed : String) :
    (snapshot.remove removed).IsVersion path entries
      more := by
  unfold Snapshot.remove
  split
  · exact hVersion.mono hEvents
  · exact .changed hVersion.path_eq rfl hEvent hApplied

theorem migrate
    {later : Snapshot}
    {migrated : String}
    {parameters : Dictionary String}
    {event : Event Side}
    (hVersion : snapshot.IsVersion path entries events)
    (hMigrate :
      snapshot.migrate migrated parameters = .ok later)
    (hEvent : event ∈ more)
    (hApplied : event.IsApplied) :
    later.IsVersion path entries more := by
  unfold Snapshot.migrate at hMigrate
  split at hMigrate
  · exact nomatch hMigrate
  · split at hMigrate
    · exact nomatch hMigrate
    · cases hMigrate
      exact .changed hVersion.path_eq rfl hEvent hApplied

end Snapshot.IsVersion

------------------------------------------------------------
-- Stages
------------------------------------------------------------

/-
  Whether both stores of a stage are copies of one version of
  the snapshot that was loaded from a file, in a world whose
  files are still the same.
-/
inductive Stage.SharesFile
    (path : String)
    (entries : List Entry)
    (origin : World) :
    Stage OpenedStore OpenedStore → Prop
| intro
    {stage : Stage OpenedStore OpenedStore}
    (snapshot : Snapshot)
    (hIndex : stage.index = .inr snapshot)
    (hLive : stage.live = .inr snapshot)
    (hWorld : stage.world.SameFiles origin)
    (hVersion :
      snapshot.IsVersion path entries stage.events) :
    SharesFile path entries origin stage

namespace Stage.SharesFile

variable {path : String} {entries : List Entry}
variable {origin : World}
variable {stage after : Stage OpenedStore OpenedStore}

/- What touches neither stores nor files keeps the copies. -/
theorem of_kept
    (hStage : stage.SharesFile path entries origin)
    (hIndex : after.index = stage.index)
    (hLive : after.live = stage.live)
    (hWorld : after.world.SameFiles stage.world)
    (hEvents : stage.events ⊆ after.events) :
    after.SharesFile path entries origin := by
  cases hStage with
  | intro snapshot hFirst hSecond hOrigin hVersion =>
      exact .intro snapshot (hIndex.trans hFirst)
        (hLive.trans hSecond) (hWorld.trans hOrigin)
        (hVersion.mono hEvents)

theorem record
    (hStage : stage.SharesFile path entries origin)
    (event : Event Side) :
    (stage.record event).SharesFile path entries origin :=
  hStage.of_kept rfl rfl (.refl _)
    (List.subset_append_left _ _)

theorem info
    (hStage : stage.SharesFile path entries origin)
    (text : String) :
    (stage.info text).SharesFile path entries origin :=
  hStage.of_kept rfl rfl ⟨rfl, rfl⟩ (List.Subset.refl _)

theorem warn
    (hStage : stage.SharesFile path entries origin)
    (text : String) :
    (stage.warn text).SharesFile path entries origin :=
  hStage.of_kept rfl rfl ⟨rfl, rfl⟩ (List.Subset.refl _)

theorem write
    (hStage : stage.SharesFile path entries origin)
    (text : String) :
    (stage.write text).2.SharesFile path entries origin :=
  hStage.of_kept rfl rfl (.refl _) (List.Subset.refl _)

------------------------------------------------------------
-- Actions
------------------------------------------------------------

/- An entry is deleted from both copies. -/
theorem delete
    (hStage : stage.SharesFile path entries origin)
    (entry : Entry) :
    (stage.delete entry).2.SharesFile path entries
      origin := by
  rcases stage with ⟨index, live, out, world, events⟩
  cases hStage with
  | intro snapshot hIndex hLive hWorld hVersion =>
      cases hIndex
      cases hLive
      refine .intro (snapshot.remove entry.path) rfl rfl
        hWorld ?version
      have hEvents :
          events ⊆
            events ++
              [.called .live (.remove entry) true] ++
              [.called .index (.remove entry) true] := by
        simp
      exact hVersion.remove hEvents (by simp)
        (.removed entry) entry.path

/- An entry is migrated in both copies or in none. -/
theorem migrate
    (hStage : stage.SharesFile path entries origin)
    (entry : Entry)
    (parameters : Dictionary String) :
    (stage.migrate entry parameters).2.SharesFile path
      entries origin := by
  rcases stage with ⟨index, live, out, world, events⟩
  cases hStage with
  | intro snapshot hIndex hLive hWorld hVersion =>
      cases hIndex
      cases hLive
      cases hMigrate :
          snapshot.migrate entry.path parameters with
      | error fault =>
          have hStore :
              Store.migrate (Sum.inr snapshot : OpenedStore)
                  entry parameters world =
                (.error (.migration fault), .inr snapshot,
                  world) := by
            simp [Store.migrate, mapStore, hMigrate]
          unfold Stage.migrate migrateLive
          rw [hStore]
          exact .intro snapshot rfl rfl hWorld
            (hVersion.mono (List.subset_append_left _ _))
      | ok later =>
          have hStore :
              Store.migrate (Sum.inr snapshot : OpenedStore)
                  entry parameters world =
                (.ok (), .inr later, world) := by
            simp [Store.migrate, mapStore, hMigrate]
          have hOffered :
              (Store.capabilities
                (Sum.inr snapshot : OpenedStore)).migrate =
                  true := rfl
          unfold Stage.migrate migrateLive migrateIndexed
          rw [hStore]
          dsimp only [Stage.record]
          rw [if_pos hOffered, hStore]
          refine .intro later rfl rfl hWorld ?version
          exact hVersion.migrate hMigrate
            (by simp [succeeded]) (.migrated entry parameters)

/- A program that leaves the files alone keeps the copies. -/
theorem run
    (hStage : stage.SharesFile path entries origin)
    {launch : Launcher}
    (hFiles : launch.KeepsFiles)
    (prepared : Prepared)
    (entry : Entry) :
    (stage.run launch prepared entry).2.SharesFile path
      entries origin := by
  unfold Stage.run
  dsimp only
  split
  · exact hStage
  · refine hStage.of_kept ?index ?live ?world ?events
    case index => rfl
    case live => rfl
    case world => exact hFiles.start _ _
    case events => exact List.subset_append_left _ _

/- No action tells the copies apart. -/
theorem act
    (hStage : stage.SharesFile path entries origin)
    {launch : Launcher}
    {prepared : Prepared}
    (hFiles : prepared.kind = .command → launch.KeepsFiles)
    (entry : Entry) :
    (stage.act launch prepared entry).2.SharesFile path
      entries origin := by
  unfold Stage.act
  cases hKind : prepared.kind with
  | delete => exact hStage.delete entry
  | migrate => exact hStage.migrate entry _
  | command => exact hStage.run (hFiles hKind) prepared entry
  | log => exact hStage.info _
  | count => exact hStage
  | noop => exact hStage
  | print =>
      have hWrite := hStage.write (entry.path ++ "\n")
      dsimp only
      generalize stage.write (entry.path ++ "\n") = written
        at hWrite ⊢
      rcases written with ⟨isComplete, after⟩
      cases isComplete <;> exact hWrite

theorem apply
    (hStage : stage.SharesFile path entries origin)
    {launch : Launcher}
    {prepared : Prepared}
    (hFiles : prepared.kind = .command → launch.KeepsFiles)
    (dryRun : Bool)
    (entry : Entry) :
    (stage.apply launch prepared dryRun entry).2.SharesFile
      path entries origin := by
  unfold Stage.apply
  split
  · exact hStage
  · split
    · exact hStage.info _
    · exact hStage.act hFiles entry

end Stage.SharesFile

/- All steps of a run keep the copies equal. -/
theorem Stage.invariant_sharesFile
    {policy : Policy}
    {launch : Launcher}
    (hFiles : policy.HasCommands → launch.KeepsFiles)
    (dryRun : Bool)
    (path : String)
    (entries : List Entry)
    (origin : World) :
    Stage.Invariant policy launch dryRun
      (Stage.SharesFile path entries origin) where
  record := fun _ event hStage => hStage.record event
  warn := fun _ text hStage => hStage.warn text
  apply := fun _ _ _ entry hPrepared hStage =>
    hStage.apply
      (fun hKind => hFiles
        (Policy.hasCommands_of_prepared hPrepared hKind))
      dryRun entry
  fetch := fun stage cursor hStage =>
    hStage.of_kept rfl rfl
      (OpenedStore.sameFiles_fetch cursor stage.world)
      (List.Subset.refl _)

------------------------------------------------------------
-- Flushing
------------------------------------------------------------

theorem eq_ok_of_succeeded
    {result : Except StoreFault Unit}
    (hResult : succeeded result = true) :
    result = .ok () := by
  cases result with
  | ok done => rfl
  | error fault => exact nomatch hResult

namespace Stage.SharesFile

variable {path : String} {entries : List Entry}
variable {origin : World}
variable {stage : Stage OpenedStore OpenedStore}

/-
  If both copies are written back, or neither has to be, the
  file holds the entries of the live one then.
-/
theorem load_flush
    (hStage : stage.SharesFile path entries origin)
    (hLoad :
      Snapshot.load path origin =
        .ok (.ofEntries path entries))
    (hLive : stage.flushLive.1.isNone = true)
    (hIndex : stage.flushLive.2.flushIndex.1.isNone = true) :
    ∃ snapshot,
      stage.flush.2.live = .inr snapshot ∧
      Snapshot.load path stage.flush.2.world =
        .ok (.ofEntries path snapshot.entries) := by
  cases hStage with
  | intro snapshot hFirst hSecond hWorld hVersion =>
      rcases flushLive_eq stage with
        ⟨hDone, hOther, hLater, hBetween⟩
      rcases flushIndex_eq stage.flushLive.2 with
        ⟨hLast, _, hKept, hFinal⟩
      rw [hSecond] at hDone hLater hBetween
      rw [hOther, hFirst] at hLast hFinal
      rcases snapshot.flush_keeps stage.world with
        ⟨isChanged, hSame⟩
      -- The live copy is the first one to be written.
      have hWritten :
          Snapshot.load path stage.flushLive.2.world =
            .ok (.ofEntries path snapshot.entries) := by
        rw [Snapshot.load_congr path hBetween]
        apply Snapshot.load_flush hVersion.path_eq
        · intro hUnchanged
          rw [Snapshot.load_congr path hWorld, hLoad,
            hVersion.entries_eq hUnchanged]
        · exact eq_ok_of_succeeded (hDone.symm.trans hLive)
      -- The index writes the same entries once more.
      have hRewritten :
          Snapshot.load path stage.flush.2.world =
            .ok (.ofEntries path snapshot.entries) := by
        have hSecondFlush :=
          eq_ok_of_succeeded (hLast.symm.trans hIndex)
        exact (Snapshot.load_congr path hFinal).trans
          (Snapshot.load_flush hVersion.path_eq
            (fun _ => hWritten) hSecondFlush)
      refine ⟨{ snapshot with isChanged := isChanged }, ?_,
        hRewritten⟩
      have hCopy :
          stage.flush.2.live =
            .inr (snapshot.flush stage.world).2.1 :=
        hKept.trans hLater
      rw [hCopy, hSame]

/- Copies that were never changed are not written back. -/
theorem tree_flush
    (hStage : stage.SharesFile path entries origin)
    (hNone : ∀ event ∈ stage.events, ¬ event.IsApplied) :
    stage.flush.2.world.tree = origin.tree := by
  cases hStage with
  | intro snapshot hIndex hLive hWorld hVersion =>
      have hSaved :
          ¬ OpenedStore.IsUnsaved (.inr snapshot) := by
        rw [hVersion.eq_ofEntries hNone]
        rintro ⟨hChanged, _⟩
        exact nomatch hChanged
      rcases stage.flush_opened with ⟨_, _, _, _, hTree⟩
      rw [hIndex, hLive] at hTree
      exact (hTree hSaved hSaved).trans hWorld.tree

end Stage.SharesFile

------------------------------------------------------------
-- Runs
------------------------------------------------------------

namespace Policy

variable {path : String} {entries : List Entry}
variable {origin : World}
variable {stage : Stage OpenedStore OpenedStore}

theorem sharesFile_query
    (policy : Policy)
    (options : QueryOptions)
    (hStage : stage.SharesFile path entries origin) :
    (policy.query (policy.queryOptions options)
      (policy.announce stage)).2.SharesFile path entries
        origin := by
  have hAnnounced := hStage.info
    ("running policy '" ++ policy.name ++ "' (" ++
      toString policy.rules.length ++ " rules)")
  exact hAnnounced.of_kept rfl rfl
    (OpenedStore.sameFiles_query _ _ _ _ _)
    (List.subset_append_left _ _)

/-
  Runs on two copies of one snapshot file.  The copies have
  the same entries after each entry that is handled.  When
  both were flushed without faults, the file holds the final
  entries of the live store, so no deletion or migration was
  lost.  Files stay as they were if none was applied.  If the
  policy has commands, the programs that it starts leave the
  files alone.
-/
theorem run_of_shared_file
    {policy : Policy}
    {launch : Launcher}
    (hFiles : policy.HasCommands → launch.KeepsFiles)
    (options : QueryOptions)
    {path : String}
    {stage : Stage OpenedStore OpenedStore}
    (hIndex :
      (Uri.snapshot path).open stage.world = .ok stage.index)
    (hLive :
      (Uri.snapshot path).open stage.world = .ok stage.live) :
    let final := (policy.run launch options stage).2
    (∀ cursor course,
      policy.Passes launch options stage cursor course →
        ∃ snapshot,
          course.stage.index = .inr snapshot ∧
          course.stage.live = .inr snapshot) ∧
    ((∀ event ∈ final.events, ¬ event.FailsFlush) →
      ∃ snapshot,
        final.live = .inr snapshot ∧
        Snapshot.load path final.world =
          .ok (.ofEntries path snapshot.entries)) ∧
    ((∀ event ∈ final.events, ¬ event.IsApplied) →
      final.world.tree = stage.world.tree) := by
  rcases map_eq_ok_iff.1 hIndex with ⟨loaded, hLoad, hCopy⟩
  have hSame : stage.live = .inr loaded := by
    rw [hIndex] at hLive
    rw [← Except.ok.inj hLive, hCopy]
  rcases Snapshot.load_eq_ok_iff.1 hLoad with
    ⟨_, entries, _, _, rfl⟩
  have hStage :
      stage.SharesFile path entries stage.world :=
    .intro _ hCopy.symm hSame (.refl _) .loaded
  rcases exists_reads_of_run policy launch options stage with
    ⟨fault, stats, before, hReads, hRun⟩
  have hOpened := sharesFile_query policy options hStage
  have hInvariant :=
    Stage.invariant_sharesFile hFiles options.dryRun path
      entries stage.world
  have hBefore := holds_of_reads hInvariant hOpened hReads
  have hEvents := events_close policy fault stats before
  rcases close_keeps policy fault stats before with
    ⟨_, hFinalLive, hFinalWorld⟩
  rw [hRun]
  refine ⟨?copies, ?written, ?untouched⟩
  case copies =>
    intro cursor course hPasses
    have hPassed :=
      holds_of_passes hInvariant hOpened hPasses
    cases hPassed with
    | intro snapshot hFirst hSecond _ _ =>
        exact ⟨snapshot, hFirst, hSecond⟩
  case written =>
    intro hFlushed
    rw [hEvents] at hFlushed
    have hDone :=
      Stage.eq_true_of_flushing fun event hEvent =>
        hFlushed event (List.mem_append_right _ hEvent)
    rw [Snapshot.load_congr path hFinalWorld, hFinalLive]
    exact hBefore.load_flush hLoad hDone.1 hDone.2
  case untouched =>
    intro hNone
    rw [hEvents] at hNone
    rw [hFinalWorld.tree]
    apply hBefore.tree_flush
    intro event hEvent
    exact hNone event (List.mem_append_left _ hEvent)

/- A file with one entry, which a policy moves to a tier. -/
theorem run_of_shared_file_migrate :
    let policy : Policy :=
      ⟨"cool", none, [], [],
        ⟨.migrate, Dictionary.empty.insert "target" "cold"⟩⟩
    let entry : Entry := .ofPath "/a.tmp" { size := 2048 }
    let copy : Snapshot := .ofEntries "/index" [entry]
    let stage : Stage OpenedStore OpenedStore :=
      { index := .inr copy
        live := .inr copy
        out := {}
        world := {
          tree :=
            (FileTree.empty.put? ["index"]
              (.file FileTree.newFile
                (Snapshot.textOf [entry]))).getD .empty } }
    let launch : Launcher :=
      fun world _ => (.error .noWords, world)
    ((policy.run launch {} stage).1.map
      RunStats.applied).toOption = some 1 ∧
    Snapshot.load "/index"
        (policy.run launch {} stage).2.world =
      .ok (.ofEntries "/index"
        [Snapshot.withTier "cold" entry]) ∧
    (policy.run launch { dryRun := true }
      stage).2.world.tree = stage.world.tree := by
  intro policy entry copy stage launch
  have hRead :
      stage.world.tree.readText stage.world.directory
          "/index" =
        .ok (Snapshot.textOf [entry]) := by
    rw [← toOption_eq_some_iff]
    decide +kernel
  have hOpen :
      (Uri.snapshot "/index").open stage.world =
        .ok stage.index :=
    Uri.open_eq_of_load (Snapshot.load_of_readText hRead)
  have hFiles : policy.HasCommands → launch.KeepsFiles :=
    fun _ world _ => .refl world
  have hReal := run_of_shared_file hFiles {} hOpen hOpen
  have hDry :=
    run_of_shared_file hFiles { dryRun := true } hOpen hOpen
  refine ⟨?applied, ?loaded, ?untouched⟩
  case applied => decide +kernel
  case loaded =>
    have hFlushed :
        ∀ event ∈ (policy.run launch {} stage).2.events,
          ¬ event.FailsFlush := by
      decide +kernel
    have hEntries :
        (policy.run launch {} stage).2.live.elim
            (fun _ => []) Snapshot.entries =
          [Snapshot.withTier "cold" entry] := by
      decide +kernel
    rcases hReal.2.1 hFlushed with ⟨snapshot, hLive, hLoad⟩
    have hSnapshot :
        snapshot.entries =
          [Snapshot.withTier "cold" entry] := by
      rw [← hEntries, hLive]
      rfl
    rw [← hSnapshot]
    exact hLoad
  case untouched =>
    apply hDry.2.2
    decide +kernel

end Policy

end TreeKeeper
