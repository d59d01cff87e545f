import TreeKeeper.Proofs.Policy.Choices
import TreeKeeper.Proofs.Policy.Counting
import TreeKeeper.Proofs.Policy.Reach
import TreeKeeper.Proofs.Store.Lists
import TreeKeeper.Proofs.Store.Removal

/-
  Dry runs as rehearsals.  A run that changes snapshots in
  memory decides the same as one that only reports what it
  would do.  The two drift apart, but an action only reaches
  the entry of its own path, and each path is asked for once.
  So what the two runs still have to look at stays equal.

  Key definitions include:
    * `RunStats.counters`
    * `Stage.IsInMemory`
    * `Course.Rehearses`

  Main declarations:
    * `Course.Rehearses.handle`
    * `Course.Rehearses.drive`
    * `Policy.run_rehearses`
-/

------------------------------------------------------------
-- Snapshots In Memory
------------------------------------------------------------

namespace TreeKeeper

/- A change of one entry leaves the file and the others. -/
theorem Snapshot.keeps_of_changes
    {entry : Entry}
    {before after : Snapshot}
    (hChanges : Store.Changes entry before after) :
    after.path = before.path ∧
      ∀ path, path ≠ entry.path →
        after.get? path = before.get? path := by
  have hKeeps :
      ∀ {operation : Operation} {result} {later : Snapshot},
        operation.Does before result later →
        operation.path? = some entry.path →
        later.path = before.path ∧
          ∀ path, path ≠ entry.path →
            later.get? path = before.get? path := by
    intro operation result later hDoes hNamed
    refine ⟨hDoes.path_eq, ?_⟩
    intro path hPath
    apply hDoes.get?_eq
    rw [hNamed]
    rintro _ ⟨⟩
    exact hPath.symm
  cases hChanges with
  | kept => exact ⟨rfl, fun _ _ => rfl⟩
  | removed world =>
      exact hKeeps (before.does_remove entry) rfl
  | migrated parameters world =>
      exact hKeeps (before.does_migrate entry parameters world)
        rfl

/- Whether both stores of a stage belong to no file. -/
def Stage.IsInMemory
    (stage : Stage Snapshot Snapshot) : Prop :=
  stage.index.path = none ∧ stage.live.path = none

/- No step of a run gives the stores a file. -/
theorem Stage.invariant_isInMemory
    (policy : Policy)
    (launch : Launcher)
    (dryRun : Bool) :
    Stage.Invariant policy launch dryRun
      Stage.IsInMemory where
  record := fun _ _ hStage => hStage
  warn := fun _ _ hStage => hStage
  fetch := fun _ _ hStage => hStage
  apply := fun stage _ prepared entry _ hStage => by
    have hReaches :=
      stage.reaches_apply launch prepared dryRun entry
    have hIndex := Snapshot.keeps_of_changes hReaches.index
    have hLive := Snapshot.keeps_of_changes hReaches.live
    exact ⟨hIndex.1.trans hStage.1, hLive.1.trans hStage.2⟩

/- Without files there is nothing to flush. -/
theorem Stage.flush_of_isInMemory
    {stage : Stage Snapshot Snapshot}
    (hStage : stage.IsInMemory) :
    stage.flush.1 = none := by
  have hNothing : ∀ {snapshot : Snapshot},
      snapshot.path = none → ∀ world,
        snapshot.flush world = (.ok (), snapshot, world) := by
    intro snapshot hPath world
    unfold Snapshot.flush
    rw [hPath]
  unfold flush flushLive flushIndex
  simp only [Store.flush, hNothing hStage.2, record,
    reportFlush, hNothing hStage.1]
  rfl

------------------------------------------------------------
-- Two Runs
------------------------------------------------------------

/-
  How many entries were fetched, had vanished, were excluded,
  and matched no rule.
-/
structure RunStats.Counters where
  fetched : Nat
  vanished : Nat
  excluded : Nat
  unmatched : Nat
deriving DecidableEq

/- These counters among all statistics. -/
def RunStats.counters
    (stats : RunStats) : RunStats.Counters where
  fetched := stats.fetched
  vanished := stats.vanished
  excluded := stats.excluded
  unmatched := stats.unmatched

/- Count an entry of the index by its present form. -/
def RunStats.Counters.receive
    (policy : Policy)
    (answer : Option Entry)
    (counters : RunStats.Counters) : RunStats.Counters :=
  let counters :=
    { counters with fetched := counters.fetched + 1 }
  match answer with
  | none =>
      { counters with vanished := counters.vanished + 1 }
  | some entry =>
      match policy.select entry with
      | .excluded =>
          { counters with excluded := counters.excluded + 1 }
      | .matched _ => counters
      | .unmatched =>
          { counters with
            unmatched := counters.unmatched + 1 }

namespace Course

variable {policy : Policy} {launch : Launcher}
variable {given : List Action}

section Stores

variable {β γ κ μ : Type}
variable [Store β κ] [Store γ μ]

/- What an entry adds to the counters goes by its answer. -/
theorem counters_handle
    (launch : Launcher)
    (policy : Policy)
    (dryRun : Bool)
    (stale : Entry)
    {course : Course β γ}
    {answer : Option Entry}
    (hFresh :
      Store.fresh course.stage.live stale
        course.stage.world = .ok answer) :
    (course.handle launch policy dryRun
        stale).stats.counters =
      RunStats.Counters.receive policy answer
        course.stats.counters := by
  have hPerform :
      ∀ (counted : Course β γ) selection entry,
        (counted.perform launch policy dryRun selection
            entry).stats.counters =
          counted.stats.counters := by
    intro counted selection entry
    unfold perform
    generalize counted.cache.prepare policy selection = found
    rcases found with ⟨prepared?, cache⟩
    cases prepared? with
    | none => rfl
    | some prepared =>
        dsimp only
        generalize counted.stage.apply launch prepared dryRun
          entry = applied
        rcases applied with ⟨result, after⟩
        cases result <;> rfl
  rw [handle_eq, hFresh]
  cases answer with
  | none => rfl
  | some entry =>
      unfold Course.decide RunStats.Counters.receive
      dsimp only
      rw [hPerform]
      cases policy.select entry <;> rfl

/- Handling an entry gives the action for its answer. -/
theorem Counts.handle_of_fresh
    {course : Course β γ}
    {answer : Option Entry}
    (hCounts : course.Counts policy 0 0 given)
    (launch : Launcher)
    (dryRun : Bool)
    (stale : Entry)
    (hFresh :
      Store.fresh course.stage.live stale
        course.stage.world = .ok answer) :
    (course.handle launch policy dryRun stale).Counts policy
      0 0
      (given ++
        (answer.bind fun entry =>
          policy.actionFor (policy.select entry)).toList) := by
  rw [handle_eq, hFresh]
  cases answer with
  | none =>
      rw [Option.bind_none, Option.toList_none,
        List.append_nil]
      exact (hCounts.answered stale none true).vanish _
  | some entry =>
      exact (hCounts.answered stale (some entry) true).decide
        launch dryRun entry

/- The output goes by the choice alone. -/
theorem out_handle
    (launch : Launcher)
    (policy : Policy)
    (dryRun : Bool)
    (stale : Entry)
    (course : Course β γ) :
    (course.handle launch policy dryRun stale).stage.out =
      match course.choice? policy stale with
      | none => course.stage.out
      | some (entry, prepared) =>
          Stage.printed prepared entry course.stage.out := by
  rcases stage_handle launch policy dryRun stale course with
    ⟨answer, success, world, hStage⟩
  rw [hStage]
  cases course.choice? policy stale with
  | none => rfl
  | some chosen =>
      rcases chosen with ⟨entry, prepared⟩
      exact (Stage.reaches_apply _ launch prepared dryRun
        entry).out

end Stores

/- An entry is chosen as it is, under its own path. -/
theorem path_of_choice?
    {course : Course Snapshot Snapshot}
    {stale entry : Entry}
    {prepared : Prepared}
    (hChoice :
      course.choice? policy stale = some (entry, prepared)) :
    entry.path = stale.path := by
  have hFresh :
      Store.fresh course.stage.live stale
          course.stage.world =
        .ok (course.stage.live.get? stale.path) := rfl
  unfold choice? at hChoice
  rw [hFresh] at hChoice
  cases hFound : course.stage.live.get? stale.path with
  | none =>
      rw [hFound] at hChoice
      exact nomatch hChoice
  | some found =>
      rw [hFound] at hChoice
      rcases Option.map_eq_some_iff.1 hChoice with
        ⟨_, _, hSame⟩
      cases hSame
      exact Snapshot.path_of_get? hFound

/- An entry of another path is looked up as before. -/
theorem get?_handle
    (launch : Launcher)
    (policy : Policy)
    (dryRun : Bool)
    {stale : Entry}
    (course : Course Snapshot Snapshot)
    {path : String}
    (hPath : path ≠ stale.path) :
    (course.handle launch policy dryRun
        stale).stage.live.get? path =
      course.stage.live.get? path := by
  rcases stage_handle launch policy dryRun stale course with
    ⟨answer, success, world, hStage⟩
  rw [hStage]
  cases hChoice : course.choice? policy stale with
  | none => rfl
  | some chosen =>
      rcases chosen with ⟨entry, prepared⟩
      have hEntry := path_of_choice? hChoice
      have hReaches :=
        Stage.reaches_apply
          (course.answered stale answer success).stage launch
          prepared dryRun entry
      have hLive := Snapshot.keeps_of_changes hReaches.live
      rw [← hEntry] at hPath
      exact hLive.2 path hPath

/-
  Whether a run has come to the same as another one, as far
  as they can tell that still have some paths to look at: the
  counters, the actions that were given, the output, and what
  the live stores know about the paths.
-/
structure Rehearses
    (policy : Policy)
    (pending : List String)
    (given : List Action)
    (dry real : Course Snapshot Snapshot) : Prop where
  dryCounts : dry.Counts policy 0 0 given
  realCounts : real.Counts policy 0 0 given
  dryMemory : dry.stage.IsInMemory
  realMemory : real.stage.IsInMemory
  counters : real.stats.counters = dry.stats.counters
  out : real.stage.out = dry.stage.out
  live : ∀ path ∈ pending,
    real.stage.live.get? path = dry.stage.live.get? path

namespace Rehearses

variable {pending : List String} {stale : Entry}
variable {dry real : Course Snapshot Snapshot}

/- The same is chosen for an entry that is pending. -/
theorem choice?_eq
    (stale : Entry)
    (hCourses : dry.Rehearses policy pending given real)
    (hPending : stale.path ∈ pending) :
    real.choice? policy stale = dry.choice? policy stale := by
  have hLive := hCourses.live stale.path hPending
  have hFresh :
      Store.fresh real.stage.live stale real.stage.world =
        Store.fresh dry.stage.live stale dry.stage.world :=
    congrArg Except.ok hLive
  rw [choice?_of_isFaithful
      hCourses.dryCounts.tallies.faithful,
    choice?_of_isFaithful
      hCourses.realCounts.tallies.faithful, hFresh]

/-
  Handling an entry in both runs leaves them the same to the
  entries of other paths.
-/
theorem handle
    (launch : Launcher)
    (stale : Entry)
    (hCourses :
      dry.Rehearses policy (stale.path :: pending) given
        real)
    (hOther : stale.path ∉ pending) :
    ∃ more,
      (dry.handle launch policy true stale).Rehearses policy
        pending (given ++ more)
        (real.handle launch policy false stale) := by
  have hChoice :=
    hCourses.choice?_eq stale List.mem_cons_self
  have hLive :=
    hCourses.live stale.path List.mem_cons_self
  have hDry :
      Store.fresh dry.stage.live stale dry.stage.world =
        .ok (dry.stage.live.get? stale.path) := rfl
  have hReal :
      Store.fresh real.stage.live stale real.stage.world =
        .ok (dry.stage.live.get? stale.path) :=
    congrArg Except.ok hLive
  refine ⟨_,
    hCourses.dryCounts.handle_of_fresh launch true stale hDry,
    hCourses.realCounts.handle_of_fresh launch false stale
      hReal,
    ?dryMemory, ?realMemory, ?counters, ?out, ?live⟩
  case dryMemory =>
    exact holds_handle
      (Stage.invariant_isInMemory policy launch true) stale
      hCourses.dryCounts.tallies.faithful hCourses.dryMemory
  case realMemory =>
    exact holds_handle
      (Stage.invariant_isInMemory policy launch false) stale
      hCourses.realCounts.tallies.faithful
      hCourses.realMemory
  case counters =>
    rw [counters_handle launch policy false stale hReal,
      counters_handle launch policy true stale hDry,
      hCourses.counters]
  case out => rw [out_handle, out_handle, hChoice, hCourses.out]
  case live =>
    intro path hPath
    have hNe : path ≠ stale.path :=
      fun hSame => hOther (hSame ▸ hPath)
    rw [get?_handle launch policy false real hNe,
      get?_handle launch policy true dry hNe]
    exact hCourses.live path (List.mem_cons_of_mem _ hPath)

/- Logging makes no difference. -/
theorem withWorld
    (hCourses : dry.Rehearses policy pending given real)
    (first second : World) :
    (dry.withWorld first).Rehearses policy pending given
      (real.withWorld second) := by
  rcases hCourses with ⟨hDry, hReal, hFirst, hSecond,
    hCounters, hOut, hLive⟩
  refine ⟨?dryCounts, ?realCounts, hFirst, hSecond, hCounters,
    hOut, hLive⟩
  case dryCounts =>
    exact ⟨hDry.tallies, hDry.fetched, hDry.unmatched,
      hDry.applied, hDry.failed⟩
  case realCounts =>
    exact ⟨hReal.tallies, hReal.fetched, hReal.unmatched,
      hReal.applied, hReal.failed⟩

/- What holds for pending paths holds for none of them. -/
theorem finish
    (hCourses : dry.Rehearses policy pending given real) :
    dry.Rehearses policy [] given real :=
  { hCourses with live := nofun }

/-
  Both runs get the same entries from a cursor that promises
  each path once, decide the same about them, and come to the
  same in the end.  By induction on the steps; what is still
  promised is what is still pending.
-/
theorem drive
    (launch : Launcher)
    (steps : Nat)
    {cursor : Results Readings}
    {entries : List Entry}
    (hCursor :
      cursor.Promises (fun _ _ => True) entries none)
    (hPaths : (entries.map Entry.path).Nodup)
    (hCourses :
      dry.Rehearses policy (entries.map Entry.path) given
        real) :
    let first := dry.drive launch policy true steps cursor
    let second := real.drive launch policy false steps cursor
    first.1 = none ∧ second.1 = none ∧
      dry.decisions launch policy true steps cursor =
        real.decisions launch policy false steps cursor ∧
      ∃ more,
        first.2.Rehearses policy [] (given ++ more)
          second.2 := by
  induction steps generalizing cursor entries given dry
      real with
  | zero =>
      refine ⟨rfl, rfl, rfl, [], ?_⟩
      rw [List.append_nil]
      exact hCourses.finish
  | succ steps ih =>
      rcases cursor.exists_fetch with
        ⟨fetched, later, hFetch⟩
      rcases hFetch dry.stage.world with ⟨first, hFirst⟩
      rcases hFetch real.stage.world with ⟨second, hSecond⟩
      have hBefore := hCourses.withWorld first second
      unfold Course.drive Course.decisions
      simp only [Store.fetch, hFirst, hSecond]
      rcases hCursor.next trivial hFirst with
        rfl | ⟨entry, more, rfl, rfl, hLater⟩
      · refine ⟨rfl, rfl, rfl, [], ?_⟩
        rw [List.append_nil]
        exact hBefore.finish
      · rw [List.map_cons, List.nodup_cons] at hPaths
        rcases hPaths with ⟨hOther, hPaths⟩
        have hChoice :=
          hBefore.choice?_eq (cursor.projection.apply entry)
            List.mem_cons_self
        have hHandled :=
          hBefore.handle launch
            (cursor.projection.apply entry) hOther
        rcases hHandled with ⟨added, hHandled⟩
        rcases ih hLater hPaths hHandled with
          ⟨hDry, hReal, hSame, others, hAfter⟩
        refine ⟨hDry, hReal, ?_, added ++ others, ?_⟩
        · unfold decision?
          dsimp only
          rw [hChoice, hSame]
        · rw [← List.append_assoc]
          exact hAfter

end Rehearses

end Course

------------------------------------------------------------
-- Whole Runs
------------------------------------------------------------

namespace Policy

/- Whether the count fits goes by the output alone. -/
theorem fst_writeCount_eq
    {β γ : Type}
    {first second : RunStats}
    {given : List Action}
    (hFirst : first.Balances given)
    (hSecond : second.Balances given)
    {before after : Stage β γ}
    (hOut : after.out = before.out) :
    (writeCount second after).1 =
      (writeCount first before).1 := by
  have hKnown :
      (second.kinds.lookup ActionKind.count).isSome =
        (first.kinds.lookup ActionKind.count).isSome :=
    Bool.eq_iff_iff.2
      ((hSecond.known .count).trans (hFirst.known .count).symm)
  unfold writeCount
  cases hOne : first.kinds.lookup ActionKind.count with
  | none =>
      cases hOther : second.kinds.lookup ActionKind.count with
      | none => rfl
      | some state =>
          rw [hOne, hOther] at hKnown
          exact nomatch hKnown
  | some state =>
      cases hOther : second.kinds.lookup ActionKind.count with
      | none =>
          rw [hOne, hOther] at hKnown
          exact nomatch hKnown
      | some other =>
          have hCount := hFirst.counting state hOne
          have hSame := hSecond.counting other hOther
          unfold Stage.write
          dsimp only
          rw [hOut, hCount, hSame]

/- Without files, only the output can fail in the end. -/
theorem fst_close_of_isInMemory
    {stage : Stage Snapshot Snapshot}
    (hStage : stage.IsInMemory)
    (policy : Policy)
    (stats : RunStats) :
    (policy.close none stats stage).1 =
      if (writeCount stats stage.flush.2).1 then .ok stats
      else .error .output := by
  unfold close
  rw [Stage.flush_of_isInMemory hStage]
  exact fst_finish policy stats stage.flush.2

/- Two runs that have gone alike end alike. -/
theorem fst_close_of_rehearses
    {policy : Policy}
    {pending : List String}
    {given : List Action}
    {dry real : Course Snapshot Snapshot}
    (hCourses : dry.Rehearses policy pending given real) :
    (policy.close none dry.totals dry.stage).1 =
          .ok dry.totals ∧
        (policy.close none real.totals real.stage).1 =
          .ok real.totals ∨
      (policy.close none dry.totals dry.stage).1 =
          .error .output ∧
        (policy.close none real.totals real.stage).1 =
          .error .output := by
  have hOut :
      real.stage.flush.2.out = dry.stage.flush.2.out := by
    rw [Stage.out_flush, Stage.out_flush, hCourses.out]
  have hWritten :=
    fst_writeCount_eq hCourses.dryCounts.balances
      hCourses.realCounts.balances hOut
  rw [fst_close_of_isInMemory hCourses.dryMemory,
    fst_close_of_isInMemory hCourses.realMemory, hWritten]
  split
  · exact .inl ⟨rfl, rfl⟩
  · exact .inr ⟨rfl, rfl⟩

theorem queryOptions_of_dryRun
    (policy : Policy)
    (options : QueryOptions)
    (dryRun : Bool) :
    policy.queryOptions { options with dryRun := dryRun } =
      { policy.queryOptions options with
        dryRun := dryRun } := by
  unfold queryOptions
  split <;> rfl

/-
  The index answers the query of either run with the same
  cursor, which promises each path once.
-/
theorem exists_cursor
    {stage : Stage Snapshot Snapshot}
    (policy : Policy)
    (options : QueryOptions)
    (hMemory : stage.IsInMemory)
    (hPaths : (stage.index.entries.map Entry.path).Nodup) :
    ∃ (cursor : Results Readings) (entries : List Entry),
      cursor.Promises (fun _ _ => True) entries none ∧
      (entries.map Entry.path).Nodup ∧
      ∀ dryRun,
        ∃ opened,
          policy.query
              (policy.queryOptions
                { options with dryRun := dryRun })
              (policy.announce stage) =
            (.ok cursor, opened) ∧
          opened.IsInMemory ∧
          opened.live = stage.live ∧
          opened.out = stage.out := by
  have hQuery :
      (Store.query stage.index policy.filter
        (policy.queryOptions options) {}
        (policy.announce stage).world).1 =
          .ok (Results.start stage.index.readings
            policy.filter (policy.queryOptions options) {}
            (policy.announce stage).world).1 := rfl
  refine ⟨_, _, Snapshot.promises_query hQuery, ?_, ?_⟩
  · have hSort :=
      (Entry.isSortOf_sortBy
        (policy.queryOptions options).sorts
        (stage.index.entries.filter
          (Filter.admits policy.filter))).perm
    have hChosen :
        ((stage.index.entries.filter
          (Filter.admits policy.filter)).map
            Entry.path).Nodup :=
      hPaths.sublist (List.filter_sublist.map _)
    have hSorted := (hSort.map Entry.path).nodup_iff.2 hChosen
    exact hSorted.sublist ((List.drop_sublist _ _).map _)
  · intro dryRun
    rw [queryOptions_of_dryRun]
    exact ⟨_, rfl, hMemory, rfl, rfl⟩

theorem rehearses_opening
    {first second : Stage Snapshot Snapshot}
    (policy : Policy)
    (pending : List String)
    (hFirst : first.IsInMemory)
    (hSecond : second.IsInMemory)
    (hLive : second.live = first.live)
    (hOut : second.out = first.out) :
    (opening first).Rehearses policy pending []
      (opening second) where
  dryCounts := counts_opening policy first
  realCounts := counts_opening policy second
  dryMemory := hFirst
  realMemory := hSecond
  counters := rfl
  out := hOut
  live := fun path _ => congrArg (Snapshot.get? · path) hLive

variable (policy : Policy) (launch : Launcher)
variable (options : QueryOptions)

/-
  Rehearsals are faithful.  On snapshots in memory, of which
  the index has no path twice, a dry run and a real one
  decide the same about the same entries in the same order,
  whatever the actions are, and count alike what became of
  the entries, unless both fail as the output is full.
-/
theorem run_rehearses
    {stage : Stage Snapshot Snapshot}
    (hMemory : stage.IsInMemory)
    (hPaths : (stage.index.entries.map Entry.path).Nodup) :
    let rehearsal : QueryOptions :=
      { options with dryRun := true }
    let actual : QueryOptions :=
      { options with dryRun := false }
    policy.decisions launch rehearsal stage =
        policy.decisions launch actual stage ∧
      ∃ first second : RunStats,
        first.counters = second.counters ∧
        ((policy.run launch rehearsal stage).1 = .ok first ∧
            (policy.run launch actual stage).1 =
              .ok second ∨
          (policy.run launch rehearsal stage).1 =
              .error .output ∧
            (policy.run launch actual stage).1 =
              .error .output) := by
  intro rehearsal actual
  rcases exists_cursor policy options hMemory hPaths with
    ⟨cursor, entries, hCursor, hOnce, hQuery⟩
  rcases hQuery true with
    ⟨first, hFirst, hFirstMemory, hFirstLive, hFirstOut⟩
  rcases hQuery false with
    ⟨second, hSecond, hSecondMemory, hSecondLive, hSecondOut⟩
  have hOpening :=
    rehearses_opening policy (entries.map Entry.path)
      hFirstMemory hSecondMemory
      (hSecondLive.trans hFirstLive.symm)
      (hSecondOut.trans hFirstOut.symm)
  have hBound :
      Store.bound Snapshot cursor first.world =
        Store.bound Snapshot cursor second.world :=
    cursor.bound_eq _ _
  have hDrive :=
    hOpening.drive launch
      (Store.bound Snapshot cursor second.world + 1) hCursor
      hOnce
  rcases hDrive with
    ⟨hDry, hReal, hSame, given, hCourses⟩
  refine ⟨?decisions, ?counters⟩
  case decisions =>
    unfold decisions
    rw [hFirst, hSecond]
    dsimp only
    rw [hBound]
    exact hSame
  case counters =>
    rw [run_eq, run_eq, hFirst, hSecond]
    dsimp only
    rw [hBound]
    generalize (opening first).drive launch policy true
      (Store.bound Snapshot cursor second.world + 1) cursor =
        dry at hDry hCourses ⊢
    generalize (opening second).drive launch policy false
      (Store.bound Snapshot cursor second.world + 1) cursor =
        real at hReal hCourses ⊢
    rcases dry with ⟨fault, dry⟩
    rcases real with ⟨other, real⟩
    subst hDry hReal
    exact ⟨dry.totals, real.totals,
      hCourses.counters.symm, fst_close_of_rehearses hCourses⟩

/-
  A rule that deletes large files, tried out where one file
  has grown and another one is gone, and then applied.
-/
theorem run_rehearses_delete :
    let policy : Policy := {
      name := "tidy"
      filter := none
      sorts := []
      rules := [{
        name := "large"
        filter :=
          some (.compare .size .greater (.unsigned 2))
        action := ⟨.delete, Dictionary.empty⟩ }]
      fallback := ⟨.migrate, Dictionary.empty⟩ }
    let file (path : String) (size : UInt64) : Entry :=
      .ofPath path { size := size }
    let stage : Stage Snapshot Snapshot := {
      index := {
        entries :=
          [file "/a" 1, file "/b" 5, file "/c" 1] }
      live := { entries := [file "/c" 1, file "/a" 7] }
      out := {}
      world := {} }
    let launch : Launcher :=
      fun world _ => (.error .noWords, world)
    policy.decisions launch {} stage =
        [⟨"/a", "large", .delete⟩,
          ⟨"/c", "fallback", .migrate⟩] ∧
      ∃ stats,
        (policy.run launch {} stage).1 = .ok stats ∧
        stats.counters = ⟨3, 1, 0, 1⟩ := by
  intro policy file stage launch
  have hPaths :
      (stage.index.entries.map Entry.path).Nodup := by
    decide
  have hMemory : stage.IsInMemory := ⟨rfl, rfl⟩
  have hRehearses :=
    run_rehearses policy launch {} hMemory hPaths
  rcases hRehearses with
    ⟨hDecisions, first, second, hCounters, hEnds⟩
  have hDry :
      ((policy.run launch { dryRun := true } stage).1.map
          RunStats.counters).toOption =
        some ⟨3, 1, 0, 1⟩ := by
    decide +kernel
  rcases hEnds with ⟨hFirst, hSecond⟩ | ⟨hFirst, _⟩
  · refine ⟨hDecisions.symm.trans (by decide +kernel),
      second, hSecond, ?_⟩
    rw [hFirst] at hDry
    rw [← hCounters]
    exact Option.some.inj hDry
  · rw [hFirst] at hDry
    exact nomatch hDry

end Policy

end TreeKeeper
