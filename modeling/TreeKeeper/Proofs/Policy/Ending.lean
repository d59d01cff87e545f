import TreeKeeper.Proofs.Policy.Course
import TreeKeeper.Proofs.Store.Logging

/-
  Whole runs.  A run asks the index first, handles what it
  gets, and then flushes both stores, whatever has happened.
  The first fault of all is its result.

  Key definitions include:
    * `Stage.flushing`
    * `Policy.opening`
    * `Policy.Passes`
    * `Policy.asking`
    * `Policy.Reads`
    * `Policy.close`

  Main declarations:
    * `Stage.flush_eq`
    * `Policy.close_keeps`
    * `Policy.run_eq`
    * `Policy.exists_reads_of_run`
    * `Policy.adds_of_reads`
    * `Policy.holds_of_reads`
    * `Policy.events_run`
-/

------------------------------------------------------------
-- Flushing
------------------------------------------------------------

namespace TreeKeeper

variable {β γ κ μ : Type}
variable [Store β κ] [Store γ μ]

namespace Stage

theorem events_flushLive
    (stage : Stage β γ) :
    stage.flushLive.2.events =
      stage.events ++
        [.called .live .flush stage.flushLive.1.isNone] := by
  unfold flushLive
  generalize Store.flush stage.live stage.world = flushed
  rcases flushed with ⟨result, live, world⟩
  cases result <;> rfl

theorem events_flushIndex
    (stage : Stage β γ) :
    stage.flushIndex.2.events =
      stage.events ++
        [.called .index .flush
          stage.flushIndex.1.isNone] := by
  unfold flushIndex
  generalize Store.flush stage.index stage.world = flushed
  rcases flushed with ⟨result, index, world⟩
  cases result <;> rfl

/- The events of flushing both stores. -/
def flushing (live index : Bool) : List (Event Side) :=
  [.called .live .flush live, .called .index .flush index]

theorem flushLive_eq
    (stage : Stage β γ) :
    let flushed := Store.flush stage.live stage.world
    stage.flushLive.1.isNone = succeeded flushed.1 ∧
      stage.flushLive.2.index = stage.index ∧
      stage.flushLive.2.live = flushed.2.1 ∧
      stage.flushLive.2.world.SameFiles flushed.2.2 := by
  unfold flushLive
  generalize Store.flush stage.live stage.world = flushed
  rcases flushed with ⟨result, live, world⟩
  cases result <;> exact ⟨rfl, rfl, rfl, rfl, rfl⟩

theorem flushIndex_eq
    (stage : Stage β γ) :
    let flushed := Store.flush stage.index stage.world
    stage.flushIndex.1.isNone = succeeded flushed.1 ∧
      stage.flushIndex.2.index = flushed.2.1 ∧
      stage.flushIndex.2.live = stage.live ∧
      stage.flushIndex.2.world.SameFiles flushed.2.2 := by
  unfold flushIndex
  generalize Store.flush stage.index stage.world = flushed
  rcases flushed with ⟨result, index, world⟩
  cases result <;> exact ⟨rfl, rfl, rfl, rfl, rfl⟩

/- Each store ends as flushing leaves it. -/
theorem flush_eq
    (stage : Stage β γ) :
    ∃ world,
      world.SameFiles
          (Store.flush stage.live stage.world).2.2 ∧
      stage.flush.2.live =
        (Store.flush stage.live stage.world).2.1 ∧
      stage.flush.2.index =
        (Store.flush stage.index world).2.1 ∧
      stage.flush.2.world.SameFiles
        (Store.flush stage.index world).2.2 := by
  rcases flushLive_eq stage with ⟨_, hOther, hLive, hWorld⟩
  rcases flushIndex_eq stage.flushLive.2 with
    ⟨_, hIndex, hKept, hFinal⟩
  rw [hOther] at hIndex hFinal
  rw [hLive] at hKept
  exact ⟨_, hWorld, hKept, hIndex, hFinal⟩

/- Flushing asks each store once, whatever the other says. -/
theorem events_flush
    (stage : Stage β γ) :
    stage.flush.2.events =
      stage.events ++
        flushing stage.flushLive.1.isNone
          stage.flushLive.2.flushIndex.1.isNone := by
  have hLive := events_flushLive stage
  have hIndex := events_flushIndex stage.flushLive.2
  rw [hLive, List.append_assoc] at hIndex
  exact hIndex

end Stage

------------------------------------------------------------
-- Reading
------------------------------------------------------------

namespace Policy

/- The course right behind a query. -/
def opening (stage : Stage β γ) : Course β γ where
  stage := stage
  cache := { capabilities := Store.capabilities stage.live }

theorem isFaithful_opening
    (policy : Policy)
    (stage : Stage β γ) :
    (opening stage).cache.IsFaithful policy :=
  ActionCache.isFaithful_of_slots_eq_nil rfl

/- The states that the run of a policy passes. -/
inductive Passes
    (policy : Policy)
    (launch : Launcher)
    (options : QueryOptions)
    (stage : Stage β γ) : κ → Course β γ → Prop
| intro
    {start cursor : κ}
    {opened : Stage β γ}
    {course : Course β γ}
    (hQuery :
      policy.query (policy.queryOptions options)
        (policy.announce stage) = (.ok start, opened))
    (hPasses :
      Course.Passes launch policy options.dryRun start
        (opening opened) cursor course) :
    Passes policy launch options stage cursor course

/- The event of asking the index for the entries of a run. -/
def asking
    (policy : Policy)
    (options : QueryOptions)
    (success : Bool) : Event Side :=
  .called .index
    (.query policy.filter (policy.queryOptions options))
    success

theorem events_query
    (policy : Policy)
    (options : QueryOptions)
    (stage : Stage β γ) :
    ∃ success,
      (policy.query (policy.queryOptions options)
          (policy.announce stage)).2.events =
        stage.events ++ [policy.asking options success] :=
  ⟨_, rfl⟩

/-
  What a run comes to before it flushes the stores: the fault
  of the query or of its cursor, the statistics, and a stage.
-/
inductive Reads
    (policy : Policy)
    (launch : Launcher)
    (options : QueryOptions)
    (stage : Stage β γ) :
    Option RunFault → RunStats → Stage β γ → Prop
| refused
    {fault : StoreFault}
    {after : Stage β γ}
    (hQuery :
      policy.query (policy.queryOptions options)
        (policy.announce stage) = (.error fault, after)) :
    Reads policy launch options stage (some (.query fault))
      {} after
| ended
    {start : κ}
    {opened : Stage β γ}
    {fault : Option StoreFault}
    {course : Course β γ}
    (hQuery :
      policy.query (policy.queryOptions options)
        (policy.announce stage) = (.ok start, opened))
    (hEnds :
      Course.Ends launch policy options.dryRun start
        (opening opened)
        (Store.bound β start opened.world + 1) fault
        course) :
    Reads policy launch options stage
      (fault.map .iteration) course.totals course.stage

/- The query of a run and its entries come before closing. -/
theorem adds_of_reads
    {kind : Event Side → Prop}
    {policy : Policy}
    {launch : Launcher}
    {options : QueryOptions}
    {stage before : Stage β γ}
    {fault : Option RunFault}
    {stats : RunStats}
    (hQuery : ∀ success,
      kind (policy.asking options success))
    (hHandles :
      ∀ (course : Course β γ) stale events,
        Course.Handles policy options.dryRun course stale
          events → ∀ event ∈ events, kind event)
    (hReads :
      policy.Reads launch options stage fault stats
        before) :
    stage.Adds kind before := by
  rcases events_query policy options stage with
    ⟨success, hAsked⟩
  cases hReads with
  | refused hRefused =>
      rw [hRefused] at hAsked
      exact .single hAsked (hQuery success)
  | @ended start opened _ course hOpened hEnds =>
      rw [hOpened] at hAsked
      have hFirst : stage.Adds kind opened :=
        .single hAsked (hQuery success)
      rcases hEnds.exists_passes with
        ⟨cursor, last, hPasses, hLast⟩
      have hEvents :
          course.stage.events = last.stage.events := by
        rcases hLast with rfl | rfl
        · rfl
        · rfl
      have hSecond : opened.Adds kind last.stage :=
        Course.adds_of_passes hHandles
          (isFaithful_opening policy opened) hPasses
      exact (hFirst.trans hSecond).trans (.of_eq hEvents)

section Invariants

variable {policy : Policy} {launch : Launcher}
variable {options : QueryOptions} {stage : Stage β γ}
variable {holds : Stage β γ → Prop}

/- What holds behind the query holds as entries are handled. -/
theorem holds_of_passes
    {cursor : κ}
    {course : Course β γ}
    (hInvariant :
      Stage.Invariant policy launch options.dryRun holds)
    (hQuery :
      holds
        (policy.query (policy.queryOptions options)
          (policy.announce stage)).2)
    (hPasses :
      policy.Passes launch options stage cursor course) :
    holds course.stage := by
  cases hPasses with
  | intro hAnswer hPasses =>
      rw [hAnswer] at hQuery
      exact Course.holds_of_passes hInvariant
        (isFaithful_opening policy _) hQuery hPasses

/- It also holds before the stores are flushed. -/
theorem holds_of_reads
    {before : Stage β γ}
    {fault : Option RunFault}
    {stats : RunStats}
    (hInvariant :
      Stage.Invariant policy launch options.dryRun holds)
    (hQuery :
      holds
        (policy.query (policy.queryOptions options)
          (policy.announce stage)).2)
    (hReads :
      policy.Reads launch options stage fault stats
        before) :
    holds before := by
  cases hReads with
  | refused hRefused =>
      rw [hRefused] at hQuery
      exact hQuery
  | ended hAnswer hEnds =>
      rw [hAnswer] at hQuery
      rcases hEnds.exists_passes with
        ⟨cursor, last, hPasses, hLast⟩
      have hPassed :=
        Course.holds_of_passes hInvariant
          (isFaithful_opening policy _) hQuery hPasses
      rcases hLast with rfl | rfl
      · exact hPassed
      · exact hInvariant.fetch last.stage cursor hPassed

end Invariants

------------------------------------------------------------
-- Closing
------------------------------------------------------------

/- Flush both stores, and give the first fault of all. -/
def close
    (policy : Policy)
    (fault : Option RunFault)
    (stats : RunStats)
    (stage : Stage β γ) :
    Except RunFault RunStats × Stage β γ :=
  match fault.or stage.flush.1 with
  | some fault => (.error fault, stage.flush.2)
  | none => policy.finish stats stage.flush.2

theorem events_finish
    (policy : Policy)
    (stats : RunStats)
    (stage : Stage β γ) :
    (policy.finish stats stage).2.events =
      stage.events := by
  have hWrite :
      (writeCount stats stage).2.events = stage.events := by
    unfold writeCount
    split <;> rfl
  unfold finish
  generalize writeCount stats stage = written at hWrite ⊢
  rcases written with ⟨isComplete, after⟩
  cases isComplete <;> exact hWrite

/- The report of a run changes no store and no file. -/
theorem finish_keeps
    (policy : Policy)
    (stats : RunStats)
    (stage : Stage β γ) :
    let final := (policy.finish stats stage).2
    final.index = stage.index ∧
      final.live = stage.live ∧
      final.world.SameFiles stage.world := by
  have hWrite :
      let written := (writeCount stats stage).2
      written.index = stage.index ∧
        written.live = stage.live ∧
        written.world.SameFiles stage.world := by
    unfold writeCount
    split <;> exact ⟨rfl, rfl, rfl, rfl⟩
  unfold finish
  generalize writeCount stats stage = written at hWrite ⊢
  rcases written with ⟨isComplete, after⟩
  rcases hWrite with ⟨hIndex, hLive, hTree, hDirectory⟩
  cases isComplete <;>
    exact ⟨hIndex, hLive, hTree, hDirectory⟩

/- Only the output can still fail at the end. -/
theorem fst_finish
    (policy : Policy)
    (stats : RunStats)
    (stage : Stage β γ) :
    (policy.finish stats stage).1 =
      if (writeCount stats stage).1 then .ok stats
      else .error .output := by
  unfold finish
  generalize writeCount stats stage = written
  rcases written with ⟨isComplete, after⟩
  cases isComplete <;> rfl

/- Stores and files end as flushing leaves them. -/
theorem close_keeps
    (policy : Policy)
    (fault : Option RunFault)
    (stats : RunStats)
    (stage : Stage β γ) :
    let final := (policy.close fault stats stage).2
    final.index = stage.flush.2.index ∧
      final.live = stage.flush.2.live ∧
      final.world.SameFiles stage.flush.2.world := by
  unfold close
  split
  · exact ⟨rfl, rfl, .refl _⟩
  · exact finish_keeps policy stats stage.flush.2

/- Closing asks for nothing but two flushes. -/
theorem events_close
    (policy : Policy)
    (fault : Option RunFault)
    (stats : RunStats)
    (stage : Stage β γ) :
    (policy.close fault stats stage).2.events =
      stage.events ++
        Stage.flushing stage.flushLive.1.isNone
          stage.flushLive.2.flushIndex.1.isNone := by
  rw [← Stage.events_flush]
  unfold close
  split
  · rfl
  · exact events_finish policy stats stage.flush.2

variable (policy : Policy) (launch : Launcher)
variable (options : QueryOptions) (stage : Stage β γ)

/-
  A run asks the index, handles what it gets if the query is
  accepted, and closes what it has come to.
-/
theorem run_eq :
    policy.run launch options stage =
      match policy.query (policy.queryOptions options)
          (policy.announce stage) with
      | (.error fault, opened) =>
          policy.close (some (.query fault)) {} opened
      | (.ok start, opened) =>
          let driven :=
            (opening opened).drive launch policy
              options.dryRun
              (Store.bound β start opened.world + 1) start
          policy.close (driven.1.map .iteration)
            driven.2.totals driven.2.stage := by
  unfold run
  dsimp only
  generalize policy.query (policy.queryOptions options)
    (policy.announce stage) = asked
  rcases asked with ⟨result, opened⟩
  cases result with
  | error fault => rfl
  | ok start =>
      unfold close opening Course.totals
      dsimp only
      generalize (Course.drive launch policy options.dryRun
        (Store.bound β start opened.world + 1) start _ :
          Option StoreFault × Course β γ) = driven
      rcases driven with ⟨fault, course⟩
      generalize course.stage.flush = flushed
      rcases flushed with ⟨flushFault, after⟩
      cases fault with
      | some fault => rfl
      | none => cases flushFault <;> rfl

/- A run reads, and closes what it has come to. -/
theorem exists_reads_of_run :
    ∃ fault stats before,
      policy.Reads launch options stage fault stats before ∧
      policy.run launch options stage =
        policy.close fault stats before := by
  rw [run_eq]
  cases hQuery :
      policy.query (policy.queryOptions options)
        (policy.announce stage) with
  | mk result opened =>
      cases result with
      | error fault =>
          exact ⟨_, _, _, .refused hQuery, rfl⟩
      | ok start =>
          have hStart :
              Course.PassesIn launch policy options.dryRun
                start (opening opened) 0 start
                (opening opened) := .start
          have hEnds :=
            Course.ends_of_drive
              (Store.bound β start opened.world + 1) hStart
          rw [Nat.zero_add] at hEnds
          exact ⟨_, _, _, .ended hQuery hEnds, rfl⟩

/-
  The events of a run: the query, what happens while entries
  are handled, and the two calls at the end.  Entries are
  handled only behind a query that succeeds.
-/
theorem events_run :
    ∃ asked handled live index,
      (policy.run launch options stage).2.events =
        stage.events ++
          ([policy.asking options asked] ++ handled ++
            Stage.flushing live index) ∧
      (handled = [] ∨
        ∃ start opened cursor course,
          policy.query (policy.queryOptions options)
              (policy.announce stage) =
            (.ok start, opened) ∧
          Course.Passes launch policy options.dryRun start
            (opening opened) cursor course ∧
          opened.events =
            stage.events ++ [policy.asking options asked] ∧
          course.stage.events = opened.events ++ handled) := by
  rcases events_query policy options stage with
    ⟨asked, hAsked⟩
  rcases exists_reads_of_run policy launch options stage with
    ⟨fault, stats, before, hReads, hRun⟩
  have hEvents := events_close policy fault stats before
  rw [← hRun] at hEvents
  generalize before.flushLive.1.isNone = live at hEvents
  generalize before.flushLive.2.flushIndex.1.isNone = index
    at hEvents
  cases hReads with
  | refused hRefused =>
      rw [hRefused] at hAsked
      refine ⟨asked, [], live, index, ?_, .inl rfl⟩
      rw [hEvents, hAsked]
      simp
  | @ended start opened fault final hOpened hEnds =>
      rw [hOpened] at hAsked
      rcases hEnds.exists_passes with
        ⟨cursor, course, hPasses, hFinal⟩
      have hAnything :
          ∀ (course : Course β γ) stale events,
            Course.Handles policy options.dryRun course
              stale events → ∀ event ∈ events, True :=
        fun _ _ _ _ _ _ => trivial
      rcases Course.adds_of_passes hAnything
          (isFaithful_opening policy opened) hPasses with
        ⟨handled, hHandled, _⟩
      have hSame :
          final.stage.events = course.stage.events := by
        rcases hFinal with rfl | rfl
        · rfl
        · rfl
      refine ⟨asked, handled, live, index, ?_,
        .inr ⟨start, opened, cursor, course, hOpened,
          hPasses, hAsked, hHandled⟩⟩
      have hOpening :
          (opening opened).stage.events = opened.events := rfl
      rw [hEvents, hSame, hHandled, hOpening, hAsked]
      simp

end Policy

end TreeKeeper
