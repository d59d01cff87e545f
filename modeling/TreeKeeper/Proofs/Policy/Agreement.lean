import TreeKeeper.Proofs.Policy.Ending
import TreeKeeper.Proofs.Store.Logging

/-
  Two runs side by side, of which one has events behind it
  that the other lacks.  While they go on with the same
  entries they do the same: the stores, the output, the files
  and the cache stay equal, the events that come are the
  same, and only the numbers of fetched and of vanished
  entries are larger by one.

  Key definitions include:
    * `Stage.Agrees`
    * `Stage.SameOutcome`
    * `RunStats.lose`
    * `Course.Agrees`
    * `Policy.SameEnd`

  Main declarations:
    * `Stage.Agrees.apply`
    * `Stage.Agrees.flush`
    * `Course.Agrees.handle`
    * `Policy.sameEnd_close`
-/

------------------------------------------------------------
-- Stages
------------------------------------------------------------

namespace TreeKeeper

variable {β γ κ μ : Type}

/-
  Whether two stages are the same, but for their logs and for
  what happened first: given events on the one, and others on
  the other one.
-/
structure Stage.Agrees
    (front base : List (Event Side))
    (first second : Stage β γ) : Prop where
  index : first.index = second.index
  live : first.live = second.live
  out : first.out = second.out
  world : first.world.SameFiles second.world
  events :
    ∃ later,
      first.events = front ++ later ∧
      second.events = base ++ later

/-
  Whether two operations give the same result on stages that
  agree.
-/
inductive Stage.SameOutcome
    {α : Type}
    (front base : List (Event Side)) :
    α × Stage β γ → α × Stage β γ → Prop
| intro
    {first second : Stage β γ}
    (result : α)
    (hStages : first.Agrees front base second) :
    SameOutcome front base (result, first) (result, second)

namespace Stage

variable {front base : List (Event Side)}
variable {first second : Stage β γ}

namespace Agrees

theorem record
    (hStages : first.Agrees front base second)
    (event : Event Side) :
    (first.record event).Agrees front base
      (second.record event) := by
  rcases hStages.events with ⟨later, hFirst, hSecond⟩
  refine ⟨hStages.index, hStages.live, hStages.out,
    hStages.world, later ++ [event], ?_, ?_⟩
  · rw [← List.append_assoc, ← hFirst]
    rfl
  · rw [← List.append_assoc, ← hSecond]
    rfl

/- Whatever is logged, stages still agree. -/
theorem note
    (hStages : first.Agrees front base second)
    (level other : LogLevel)
    (text more : String) :
    ({ first with
      world := first.world.note level text } :
        Stage β γ).Agrees front base
      { second with
        world := second.world.note other more } :=
  ⟨hStages.index, hStages.live, hStages.out,
    hStages.world.note level other text more,
    hStages.events⟩

theorem info
    (hStages : first.Agrees front base second)
    (text more : String) :
    (first.info text).Agrees front base (second.info more) :=
  hStages.note _ _ text more

theorem warn
    (hStages : first.Agrees front base second)
    (text more : String) :
    (first.warn text).Agrees front base (second.warn more) :=
  hStages.note _ _ text more

theorem write
    (hStages : first.Agrees front base second)
    (text : String) :
    SameOutcome front base (first.write text)
      (second.write text) := by
  have hOut :
      first.out.write text = second.out.write text := by
    rw [hStages.out]
  unfold Stage.write
  rw [hOut]
  exact .intro _ ⟨hStages.index, hStages.live, rfl,
    hStages.world, hStages.events⟩

end Agrees

------------------------------------------------------------
-- Changes
------------------------------------------------------------

namespace Agrees

/- The same answer of the live store is the same outcome. -/
theorem changeLive
    (hStages : first.Agrees front base second)
    {answer other : Except StoreFault Unit × γ × World}
    (hSame : Store.SameAnswer answer other)
    (event : Bool → Event Side) :
    SameOutcome front base
      (answer.1,
        ({ first with
          live := answer.2.1
          world := answer.2.2 } : Stage β γ).record
            (event (succeeded answer.1)))
      (other.1,
        ({ second with
          live := other.2.1
          world := other.2.2 } : Stage β γ).record
            (event (succeeded other.1))) := by
  cases hSame with
  | intro result live hWorld =>
      apply SameOutcome.intro
      apply Agrees.record
      exact ⟨hStages.index, rfl, hStages.out, hWorld,
        hStages.events⟩

/- So is the same answer of the index. -/
theorem changeIndex
    (hStages : first.Agrees front base second)
    {answer other : Except StoreFault Unit × β × World}
    (hSame : Store.SameAnswer answer other)
    (event : Bool → Event Side) :
    SameOutcome front base
      (answer.1,
        ({ first with
          index := answer.2.1
          world := answer.2.2 } : Stage β γ).record
            (event (succeeded answer.1)))
      (other.1,
        ({ second with
          index := other.2.1
          world := other.2.2 } : Stage β γ).record
            (event (succeeded other.1))) := by
  cases hSame with
  | intro result index hWorld =>
      apply SameOutcome.intro
      apply Agrees.record
      exact ⟨rfl, hStages.live, hStages.out, hWorld,
        hStages.events⟩

section Live

variable [Store γ μ] [Store.IgnoresLog γ]

theorem removeLive
    (hStages : first.Agrees front base second)
    (entry : Entry) :
    SameOutcome front base (first.removeLive entry)
      (second.removeLive entry) := by
  have hSame :=
    Store.IgnoresLog.remove first.live entry hStages.world
  have hOutcome := hStages.changeLive hSame
    (.called .live (.remove entry))
  rw [hStages.live] at hOutcome
  unfold Stage.removeLive
  rw [hStages.live]
  exact hOutcome

theorem migrateLive
    (hStages : first.Agrees front base second)
    (entry : Entry)
    (parameters : Dictionary String) :
    SameOutcome front base
      (first.migrateLive entry parameters)
      (second.migrateLive entry parameters) := by
  have hSame :=
    Store.IgnoresLog.migrate first.live entry parameters
      hStages.world
  have hOutcome := hStages.changeLive hSame
    (.called .live (.migrate entry parameters))
  rw [hStages.live] at hOutcome
  unfold Stage.migrateLive
  rw [hStages.live]
  exact hOutcome

end Live

section Index

variable [Store β κ] [Store.IgnoresLog β]

theorem removeIndexed
    (hStages : first.Agrees front base second)
    (entry : Entry) :
    SameOutcome front base (first.removeIndexed entry)
      (second.removeIndexed entry) := by
  have hSame :=
    Store.IgnoresLog.remove first.index entry hStages.world
  have hOutcome := hStages.changeIndex hSame
    (.called .index (.remove entry))
  rw [hStages.index] at hOutcome
  unfold Stage.removeIndexed
  rw [hStages.index]
  exact hOutcome

theorem migrateIndexed
    (hStages : first.Agrees front base second)
    (entry : Entry)
    (parameters : Dictionary String) :
    SameOutcome front base
      (first.migrateIndexed entry parameters)
      (second.migrateIndexed entry parameters) := by
  have hSame :=
    Store.IgnoresLog.migrate first.index entry parameters
      hStages.world
  have hOutcome := hStages.changeIndex hSame
    (.called .index (.migrate entry parameters))
  rw [hStages.index] at hOutcome
  unfold Stage.migrateIndexed
  rw [hStages.index]
  exact hOutcome

end Index

------------------------------------------------------------
-- Actions
------------------------------------------------------------

/- A program that is started leaves the same files to both. -/
theorem start
    {launch : Launcher}
    (hLaunch : launch.IgnoresLog)
    (hStages : first.Agrees front base second)
    (entry : Entry)
    (words : List String) :
    SameOutcome front base (first.start launch entry words)
      (second.start launch entry words) := by
  rcases hLaunch.start words hStages.world with
    ⟨hResult, hWorld⟩
  unfold Stage.start
  dsimp only
  rw [hResult]
  have hBefore :
      ({ first with
        world := (launch.start first.world words).2 } :
          Stage β γ).Agrees front base
        { second with
          world := (launch.start second.world words).2 } :=
    ⟨hStages.index, hStages.live, hStages.out, hWorld,
      hStages.events⟩
  exact .intro _ (hBefore.record _)

/- A program is started for both stages, or for neither. -/
theorem run
    [Store γ μ]
    {launch : Launcher}
    (hLaunch : launch.IgnoresLog)
    (hStages : first.Agrees front base second)
    (prepared : Prepared)
    (entry : Entry) :
    SameOutcome front base (first.run launch prepared entry)
      (second.run launch prepared entry) := by
  have hPlace :
      first.placeText entry = second.placeText entry := by
    unfold placeText
    rw [hStages.live]
  unfold Stage.run
  rw [hPlace]
  generalize
    fillIn prepared.words (second.placeText entry) = words
  dsimp only
  by_cases hWords : words.isEmpty = true
  · simp only [if_pos hWords]
    exact .intro _ hStages
  · simp only [if_neg hWords]
    have hStart := hStages.start hLaunch entry words
    generalize first.start launch entry words = a at hStart ⊢
    generalize second.start launch entry words = b
      at hStart ⊢
    cases hStart with
    | intro result hAfter => exact .intro _ hAfter

section Actions

variable [Store β κ] [Store γ μ]
variable [Store.IgnoresLog β] [Store.IgnoresLog γ]

theorem delete
    (hStages : first.Agrees front base second)
    (entry : Entry) :
    SameOutcome front base (first.delete entry)
      (second.delete entry) := by
  have hLive := hStages.removeLive entry
  unfold Stage.delete
  generalize first.removeLive entry = a at hLive ⊢
  generalize second.removeLive entry = b at hLive ⊢
  cases hLive with
  | @intro first second result hLive =>
      cases result with
      | error fault => exact .intro _ hLive
      | ok done =>
          dsimp only
          rw [hLive.index]
          by_cases hOffered :
              (Store.capabilities second.index).delete = true
          · simp only [if_pos hOffered]
            have hIndex := hLive.removeIndexed entry
            generalize first.removeIndexed entry = a
              at hIndex ⊢
            generalize second.removeIndexed entry = b
              at hIndex ⊢
            cases hIndex with
            | intro result hIndex =>
                cases result with
                | ok done => exact .intro _ hIndex
                | error fault =>
                    exact .intro _ (hIndex.warn _ _)
          · simp only [if_neg hOffered]
            exact .intro _ hLive

theorem migrate
    (hStages : first.Agrees front base second)
    (entry : Entry)
    (parameters : Dictionary String) :
    SameOutcome front base (first.migrate entry parameters)
      (second.migrate entry parameters) := by
  have hLive := hStages.migrateLive entry parameters
  unfold Stage.migrate
  generalize first.migrateLive entry parameters = a
    at hLive ⊢
  generalize second.migrateLive entry parameters = b
    at hLive ⊢
  cases hLive with
  | @intro first second result hLive =>
      cases result with
      | error fault => exact .intro _ hLive
      | ok done =>
          dsimp only
          rw [hLive.index]
          by_cases hOffered :
              (Store.capabilities second.index).migrate = true
          · simp only [if_pos hOffered]
            have hIndex :=
              hLive.migrateIndexed entry parameters
            generalize first.migrateIndexed entry parameters =
              a at hIndex ⊢
            generalize
              second.migrateIndexed entry parameters = b
                at hIndex ⊢
            cases hIndex with
            | intro result hIndex =>
                cases result with
                | ok done => exact .intro _ hIndex
                | error fault =>
                    exact .intro _ (hIndex.warn _ _)
          · simp only [if_neg hOffered]
            exact .intro _ hLive

theorem act
    {launch : Launcher}
    (hLaunch : launch.IgnoresLog)
    (hStages : first.Agrees front base second)
    (prepared : Prepared)
    (entry : Entry) :
    SameOutcome front base (first.act launch prepared entry)
      (second.act launch prepared entry) := by
  unfold Stage.act
  cases prepared.kind with
  | delete => exact hStages.delete entry
  | migrate => exact hStages.migrate entry _
  | command => exact hStages.run hLaunch prepared entry
  | log => exact .intro _ (hStages.info _ _)
  | count => exact .intro _ hStages
  | noop => exact .intro _ hStages
  | print =>
      have hWrite := hStages.write (entry.path ++ "\n")
      dsimp only
      generalize first.write (entry.path ++ "\n") = a
        at hWrite ⊢
      generalize second.write (entry.path ++ "\n") = b
        at hWrite ⊢
      cases hWrite with
      | intro isComplete hAfter =>
          cases isComplete with
          | true => exact .intro _ hAfter
          | false => exact .intro _ hAfter

theorem apply
    {launch : Launcher}
    (hLaunch : launch.IgnoresLog)
    (hStages : first.Agrees front base second)
    (prepared : Prepared)
    (dryRun : Bool)
    (entry : Entry) :
    SameOutcome front base
      (first.apply launch prepared dryRun entry)
      (second.apply launch prepared dryRun entry) := by
  unfold Stage.apply
  rw [hStages.live]
  by_cases hSupported :
      (!prepared.kind.isSupported
        (Store.capabilities second.live)) = true
  · simp only [if_pos hSupported]
    exact .intro _ hStages
  · simp only [if_neg hSupported]
    by_cases hOnly :
        (dryRun && prepared.kind.isDestructive) = true
    · simp only [if_pos hOnly]
      exact .intro _ (hStages.info _ _)
    · simp only [if_neg hOnly]
      exact hStages.act hLaunch prepared entry

end Actions

------------------------------------------------------------
-- Flushing
------------------------------------------------------------

theorem reportFlush
    (hStages : first.Agrees front base second)
    (name : String)
    (result : Except StoreFault Unit) :
    SameOutcome front base (first.reportFlush name result)
      (second.reportFlush name result) := by
  cases result with
  | ok done => exact .intro _ hStages
  | error fault => exact .intro _ (hStages.warn _ _)

theorem flushLive
    [Store γ μ]
    [Store.IgnoresLog γ]
    (hStages : first.Agrees front base second) :
    SameOutcome front base first.flushLive
      second.flushLive := by
  have hSame :=
    Store.IgnoresLog.flush first.live hStages.world
  rw [hStages.live] at hSame
  unfold Stage.flushLive
  rw [hStages.live]
  generalize Store.flush second.live first.world = a
    at hSame ⊢
  generalize Store.flush second.live second.world = b
    at hSame ⊢
  have hOutcome := hStages.changeLive hSame
    (.called .live .flush)
  cases hSame with
  | intro result live hWorld =>
      cases hOutcome with
      | intro result hAfter =>
          exact hAfter.reportFlush _ result

theorem flushIndex
    [Store β κ]
    [Store.IgnoresLog β]
    (hStages : first.Agrees front base second) :
    SameOutcome front base first.flushIndex
      second.flushIndex := by
  have hSame :=
    Store.IgnoresLog.flush first.index hStages.world
  rw [hStages.index] at hSame
  unfold Stage.flushIndex
  rw [hStages.index]
  generalize Store.flush second.index first.world = a
    at hSame ⊢
  generalize Store.flush second.index second.world = b
    at hSame ⊢
  have hOutcome := hStages.changeIndex hSame
    (.called .index .flush)
  cases hSame with
  | intro result index hWorld =>
      cases hOutcome with
      | intro result hAfter =>
          exact hAfter.reportFlush _ result

theorem flush
    [Store β κ]
    [Store γ μ]
    [Store.IgnoresLog β]
    [Store.IgnoresLog γ]
    (hStages : first.Agrees front base second) :
    SameOutcome front base first.flush second.flush := by
  have hLive := hStages.flushLive
  unfold Stage.flush
  generalize first.flushLive = a at hLive ⊢
  generalize second.flushLive = b at hLive ⊢
  cases hLive with
  | @intro first second liveFault hLive =>
      have hIndex := hLive.flushIndex
      dsimp only
      generalize first.flushIndex = a at hIndex ⊢
      generalize second.flushIndex = b at hIndex ⊢
      cases hIndex with
      | intro indexFault hIndex => exact .intro _ hIndex

end Agrees

end Stage

------------------------------------------------------------
-- Courses
------------------------------------------------------------

/- The statistics with one more entry that is gone. -/
def RunStats.lose (stats : RunStats) : RunStats :=
  { stats with
    fetched := stats.fetched + 1
    vanished := stats.vanished + 1 }

theorem RunStats.processed_lose
    (stats : RunStats) :
    stats.lose.processed = stats.processed :=
  Nat.add_sub_add_right stats.fetched 1 stats.vanished

/-
  Whether two courses are the same, but for one entry that is
  gone and that only the first one has met.
-/
structure Course.Agrees
    (front base : List (Event Side))
    (first second : Course β γ) : Prop where
  stage : first.stage.Agrees front base second.stage
  cache : first.cache = second.cache
  stats : first.stats = second.stats.lose

namespace Course.Agrees

variable {front base : List (Event Side)}
variable {first second : Course β γ}

theorem answered
    (hCourses : first.Agrees front base second)
    (stale : Entry)
    (answer : Option Entry)
    (success : Bool) :
    (first.answered stale answer success).Agrees front base
      (second.answered stale answer success) := by
  refine ⟨?stage, hCourses.cache, ?stats⟩
  case stage =>
    exact (hCourses.stage.record _).record _
  case stats =>
    unfold Course.answered
    rw [hCourses.stats]
    rfl

theorem vanish
    (hCourses : first.Agrees front base second)
    (text : String) :
    (first.vanish text).Agrees front base
      (second.vanish text) := by
  refine ⟨hCourses.stage.warn text text, hCourses.cache,
    ?stats⟩
  case stats =>
    unfold Course.vanish tally
    dsimp only
    rw [hCourses.stats]
    rfl

theorem countSelection
    (hCourses : first.Agrees front base second)
    (selection : Selection) :
    (first.countSelection selection).Agrees front base
      (second.countSelection selection) := by
  rcases first with ⟨stage, cache, stats⟩
  rcases hCourses with ⟨hStage, rfl, rfl⟩
  cases selection with
  | excluded => exact ⟨hStage, rfl, rfl⟩
  | unmatched => exact ⟨hStage, rfl, rfl⟩
  | matched index => exact ⟨hStage, rfl, rfl⟩

theorem conclude
    (hCourses : first.Agrees front base second)
    (prepared : Prepared)
    (entry : Entry)
    (result : Except ApplyFault Unit) :
    (first.conclude prepared entry result).Agrees front base
      (second.conclude prepared entry result) := by
  rcases first with ⟨stage, cache, stats⟩
  rcases hCourses with ⟨hStage, rfl, rfl⟩
  cases result with
  | ok done => exact ⟨hStage, rfl, rfl⟩
  | error fault => exact ⟨hStage.warn _ _, rfl, rfl⟩

variable [Store β κ] [Store γ μ]
variable [Store.IgnoresLog β] [Store.IgnoresLog γ]
variable {launch : Launcher}

theorem perform
    (hLaunch : launch.IgnoresLog)
    (hCourses : first.Agrees front base second)
    (policy : Policy)
    (dryRun : Bool)
    (selection : Selection)
    (entry : Entry) :
    (first.perform launch policy dryRun selection
      entry).Agrees front base
        (second.perform launch policy dryRun selection
          entry) := by
  rcases first with ⟨stage, cache, stats⟩
  rcases hCourses with ⟨hStage, rfl, hStats⟩
  unfold Course.perform
  dsimp only at hStage ⊢
  generalize second.cache.prepare policy selection = found
  rcases found with ⟨prepared?, cache⟩
  cases prepared? with
  | none => exact ⟨hStage, rfl, hStats⟩
  | some prepared =>
      have hApply :=
        hStage.apply hLaunch prepared dryRun entry
      dsimp only
      generalize stage.apply launch prepared dryRun entry = a
        at hApply ⊢
      generalize
        second.stage.apply launch prepared dryRun entry = b
          at hApply ⊢
      cases hApply with
      | intro result hAfter =>
          apply Course.Agrees.conclude
          exact ⟨hAfter, rfl, hStats⟩

/- Handling an entry does the same on both sides. -/
theorem handle
    (hLaunch : launch.IgnoresLog)
    (hCourses : first.Agrees front base second)
    (policy : Policy)
    (dryRun : Bool)
    (stale : Entry) :
    (first.handle launch policy dryRun stale).Agrees front
      base (second.handle launch policy dryRun stale) := by
  have hFresh :=
    Store.IgnoresLog.fresh first.stage.live stale
      hCourses.stage.world
  rw [hCourses.stage.live] at hFresh
  rw [handle_eq, handle_eq, hCourses.stage.live, hFresh]
  cases Store.fresh second.stage.live stale
      second.stage.world with
  | error fault =>
      exact (hCourses.answered stale none false).vanish _
  | ok answer =>
      cases answer with
      | none =>
          exact (hCourses.answered stale none true).vanish _
      | some entry =>
          have hAnswered :=
            hCourses.answered stale (some entry) true
          exact (hAnswered.countSelection _).perform hLaunch
            policy dryRun _ entry

theorem totals
    (hCourses : first.Agrees front base second) :
    first.totals = second.totals.lose := by
  unfold Course.totals
  rw [hCourses.cache, hCourses.stats]
  rfl

end Course.Agrees

------------------------------------------------------------
-- Closing
------------------------------------------------------------

namespace Policy

/-
  Whether two outcomes of a run are the same, but for one
  entry that is gone and that only the first one has met.
-/
structure SameEnd
    (front base : List (Event Side))
    (first second :
      Except RunFault RunStats × Stage β γ) : Prop where
  result : first.1 = second.1.map RunStats.lose
  stage : first.2.Agrees front base second.2

variable {front base : List (Event Side)}
variable {first second : Stage β γ}

theorem sameEnd_finish
    (policy : Policy)
    (hStages : first.Agrees front base second)
    (stats : RunStats) :
    SameEnd front base (policy.finish stats.lose first)
      (policy.finish stats second) := by
  have hWrite :
      Stage.SameOutcome front base
        (writeCount stats.lose first)
        (writeCount stats second) := by
    unfold writeCount
    dsimp only [RunStats.lose]
    cases stats.kinds.lookup ActionKind.count with
    | none => exact .intro _ hStages
    | some state => exact hStages.write _
  unfold finish
  generalize writeCount stats.lose first = a at hWrite ⊢
  generalize writeCount stats second = b at hWrite ⊢
  cases hWrite with
  | intro isComplete hAfter =>
      cases isComplete with
      | true => exact ⟨rfl, hAfter.info _ _⟩
      | false => exact ⟨rfl, hAfter⟩

variable [Store β κ] [Store γ μ]
variable [Store.IgnoresLog β] [Store.IgnoresLog γ]

theorem sameEnd_close
    (policy : Policy)
    (hStages : first.Agrees front base second)
    (fault : Option RunFault)
    (stats : RunStats) :
    SameEnd front base (policy.close fault stats.lose first)
      (policy.close fault stats second) := by
  have hFlush := hStages.flush
  unfold close
  generalize first.flush = a at hFlush ⊢
  generalize second.flush = b at hFlush ⊢
  cases hFlush with
  | intro flushFault hAfter =>
      dsimp only
      cases fault.or flushFault with
      | some fault => exact ⟨rfl, hAfter⟩
      | none => exact sameEnd_finish policy hAfter stats

end Policy

end TreeKeeper
