import TreeKeeper.Proofs.Policy.Agreement
import TreeKeeper.Proofs.Policy.Following

/-
  Trouble with one entry stays with this entry.  Steps that
  ask to come again leave no trace in a run, and an entry that
  is gone by the time it is its turn leaves none but its own
  two events and two numbers.  All entries are handled in the
  order of the script.

  Key definitions include:
    * `Policy.Misses`
    * `Policy.Skips`

  Main declarations:
    * `Course.Agrees.follow`
    * `Course.agrees_handle_of_gone`
    * `Policy.skips_of_misses`
    * `Policy.runOn_isolates`
-/

------------------------------------------------------------
-- Following Side By Side
------------------------------------------------------------

namespace TreeKeeper

variable {β γ κ μ : Type}
variable [Store β κ] [Store γ μ]

namespace Course

/- With the same script, courses that agree end alike. -/
theorem Agrees.follow
    [Store.IgnoresLog β]
    [Store.IgnoresLog γ]
    {launch : Launcher}
    (hLaunch : launch.IgnoresLog)
    (policy : Policy)
    (dryRun : Bool)
    (steps : List Fetch)
    {front base : List (Event Side)}
    {first second : Course β γ}
    (hCourses : first.Agrees front base second) :
    (first.follow launch policy dryRun steps).1 =
        (second.follow launch policy dryRun steps).1 ∧
      (first.follow launch policy dryRun steps).2.Agrees
        front base
        (second.follow launch policy dryRun steps).2 := by
  induction steps generalizing first second with
  | nil => exact ⟨rfl, hCourses⟩
  | cons step rest ih =>
      cases step with
      | finished => exact ⟨rfl, hCourses⟩
      | failed fault => exact ⟨rfl, hCourses⟩
      | again => exact ih hCourses
      | entry stale =>
          exact ih (hCourses.handle hLaunch policy dryRun
            stale)

/- The events of an entry that is gone. -/
def missing
    (gone : Entry)
    (success : Bool) : List (Event Side) :=
  [.fetched gone, .called .live (.fresh gone none) success]

/-
  A course that has met an entry that is gone agrees with the
  one that has not.
-/
theorem agrees_handle_of_gone
    (launch : Launcher)
    (policy : Policy)
    (dryRun : Bool)
    {gone : Entry}
    {course : Course β γ}
    (hGone : ∀ entry,
      Store.fresh course.stage.live gone course.stage.world ≠
        .ok (some entry)) :
    ∃ success,
      (course.handle launch policy dryRun gone).Agrees
        (course.stage.events ++ missing gone success)
        course.stage.events course := by
  have hVanish : ∀ success text,
      ((course.answered gone none success).vanish
        text).Agrees
          (course.stage.events ++ missing gone success)
          course.stage.events course := by
    intro success text
    refine ⟨⟨rfl, rfl, rfl, ⟨rfl, rfl⟩, [], ?_, ?_⟩, rfl, rfl⟩
    · rw [List.append_nil]
      exact List.append_assoc _ _ _
    · exact (List.append_nil _).symm
  rw [handle_eq]
  cases hFresh : Store.fresh course.stage.live gone
      course.stage.world with
  | error fault => exact ⟨false, hVanish _ _⟩
  | ok answer =>
      cases answer with
      | none => exact ⟨true, hVanish _ _⟩
      | some entry => exact absurd hFresh (hGone entry)

end Course

------------------------------------------------------------
-- Whole Runs
------------------------------------------------------------

namespace Policy

/-
  Whether the live store lacks an entry, or cannot read it,
  once a run has handled the front of its script.
-/
def Misses
    (policy : Policy)
    (launch : Launcher)
    (options : QueryOptions)
    (stage : Stage β γ)
    (front : List Fetch)
    (gone : Entry) : Prop :=
  ∀ start opened,
    policy.query (policy.queryOptions options)
        (policy.announce stage) = (.ok start, opened) →
      let reached :=
        ((opening opened).follow launch policy options.dryRun
          front).2
      ∀ entry,
        Store.fresh reached.stage.live gone
            reached.stage.world ≠ .ok (some entry)

/-
  How the outcome of a run differs that meets an entry that
  is gone: not at all if the query was refused, and otherwise
  by the two events of this entry, which is counted as
  fetched and as vanished.
-/
inductive Skips
    (gone : Entry) :
    Except RunFault RunStats × Stage β γ →
      Except RunFault RunStats × Stage β γ → Prop
| refused
    (fault : StoreFault)
    (stage : Stage β γ) :
    Skips gone (.error (.query fault), stage)
      (.error (.query fault), stage)
| met
    {first second : Except RunFault RunStats × Stage β γ}
    (events : List (Event Side))
    (success : Bool)
    (hEnd :
      SameEnd (events ++ Course.missing gone success) events
        first second) :
    Skips gone first second

theorem Skips.processed
    {gone : Entry}
    {first second : Except RunFault RunStats × Stage β γ}
    (hSkips : Skips gone first second) :
    first.1.map RunStats.processed =
      second.1.map RunStats.processed := by
  cases hSkips with
  | refused fault stage => rfl
  | met events success hEnd =>
      rw [hEnd.result]
      cases second.1 with
      | error fault => rfl
      | ok stats =>
          exact congrArg Except.ok stats.processed_lose

variable (policy : Policy) (options : QueryOptions)
variable (stage : Stage β γ)

theorem runOn_skipAgain
    (launch : Launcher)
    (steps : List Fetch) :
    policy.runOn launch options (Fetch.skipAgain steps)
        stage =
      policy.runOn launch options steps stage := by
  rw [runOn_eq, runOn_eq]
  simp only [Course.follow_skipAgain]

/- An entry that is gone is skipped. -/
theorem skips_of_misses
    [Store.IgnoresLog β]
    [Store.IgnoresLog γ]
    {launch : Launcher}
    (hLaunch : launch.IgnoresLog)
    {front : List Fetch}
    {gone : Entry}
    (hFront : ∀ step ∈ front, step.isLast = false)
    (hMisses : policy.Misses launch options stage front gone)
    (back : List Fetch) :
    Skips gone
      (policy.runOn launch options
        (front ++ .entry gone :: back) stage)
      (policy.runOn launch options (front ++ back) stage) := by
  rw [runOn_eq, runOn_eq]
  cases hQuery :
      policy.query (policy.queryOptions options)
        (policy.announce stage) with
  | mk result opened =>
      cases result with
      | error fault => exact .refused fault _
      | ok start =>
          have hGone := hMisses start opened hQuery
          dsimp only at hGone ⊢
          rw [Course.follow_append hFront,
            Course.follow_append hFront]
          generalize
            ((opening opened).follow launch policy
              options.dryRun front).2 = reached at hGone ⊢
          rcases Course.agrees_handle_of_gone launch policy
              options.dryRun hGone with
            ⟨success, hCourses⟩
          rcases hCourses.follow hLaunch policy options.dryRun
              back with
            ⟨hFault, hEnd⟩
          have hStep :
              reached.follow launch policy options.dryRun
                  (.entry gone :: back) =
                (reached.handle launch policy options.dryRun
                  gone).follow launch policy options.dryRun
                    back := rfl
          rw [hStep, hFault, hEnd.totals]
          exact .met _ success
            (sameEnd_close policy hEnd.stage _ _)

/-
  The events of a run with a script: the query, then a block
  for each entry in the order of the script, and then the
  flushes.
-/
theorem blocks_of_runOn
    (launch : Launcher)
    (steps : List Fetch) :
    ∃ asked blocks live index,
      (policy.runOn launch options steps stage).2.events =
        stage.events ++
          policy.asking options asked ::
            (blocks.flatten ++ Stage.flushing live index) ∧
      List.Forall₂
        (fun stale block =>
          ∃ before : Course β γ,
            Course.Handles policy options.dryRun before stale
              block)
        (if asked then Fetch.entries steps else [])
        blocks := by
  have hAsked :
      (policy.query (policy.queryOptions options)
          (policy.announce stage)).2.events =
        stage.events ++
          [policy.asking options
            (succeeded
              (policy.query (policy.queryOptions options)
                (policy.announce stage)).1)] := rfl
  rw [runOn_eq]
  generalize policy.query (policy.queryOptions options)
    (policy.announce stage) = asked at hAsked ⊢
  rcases asked with ⟨result, opened⟩
  cases result with
  | error fault =>
      have hClose :=
        events_close policy (some (.query fault)) {} opened
      rw [hAsked, List.append_assoc] at hClose
      exact ⟨false, [], _, _, hClose, .nil⟩
  | ok start =>
      rcases Course.blocks_of_follow steps
          (isFaithful_opening policy opened) with
        ⟨blocks, hBlocks, hHandles⟩
      dsimp only
      generalize
        (opening opened).follow launch policy options.dryRun
          steps = driven at hBlocks ⊢
      have hClose :=
        events_close policy (driven.1.map .iteration)
          driven.2.totals driven.2.stage
      have hOpened :
          (opening opened).stage.events =
            stage.events ++ [policy.asking options true] :=
        hAsked
      rw [hBlocks, hOpened, List.append_assoc,
        List.append_assoc] at hClose
      exact ⟨true, blocks, _, _, hClose, hHandles⟩

/-
  The trouble of one entry does not touch the others.  Steps
  that ask to come again change nothing, wherever they are.
  An entry that is gone or cannot be read, anywhere in front
  of the end of the script, changes no call that changes or
  flushes a store, no program, no output and no number but
  those of fetched and vanished entries.  All entries up to
  the end are handled, in the order in which they come.
-/
theorem runOn_isolates
    (launch : Launcher) :
    (∀ steps others,
      Fetch.skipAgain steps = Fetch.skipAgain others →
        policy.runOn launch options steps stage =
          policy.runOn launch options others stage) ∧
    (Store.IgnoresLog β → Store.IgnoresLog γ →
      launch.IgnoresLog →
        ∀ front gone back,
          (∀ step ∈ front, step.isLast = false) →
          policy.Misses launch options stage front gone →
            let met :=
              policy.runOn launch options
                (front ++ .entry gone :: back) stage
            let spared :=
              policy.runOn launch options (front ++ back)
                stage
            Skips gone met spared ∧
              met.1.map RunStats.processed =
                spared.1.map RunStats.processed) ∧
    ∀ steps, ∃ asked blocks live index,
      (policy.runOn launch options steps stage).2.events =
        stage.events ++
          policy.asking options asked ::
            (blocks.flatten ++ Stage.flushing live index) ∧
      List.Forall₂
        (fun stale block =>
          ∃ before : Course β γ,
            Course.Handles policy options.dryRun before stale
              block)
        (if asked then Fetch.entries steps else [])
        blocks := by
  refine ⟨?again, ?gone, ?order⟩
  case again =>
    intro steps others hSame
    rw [← runOn_skipAgain, hSame, runOn_skipAgain]
  case gone =>
    intro _ _ hLaunch front gone back hFront hMisses
    have hSkips := skips_of_misses policy options stage
      hLaunch hFront hMisses back
    exact ⟨hSkips, hSkips.processed⟩
  case order =>
    intro steps
    exact blocks_of_runOn policy options stage launch steps

/-
  A policy that deletes three entries, of which the second one
  is gone.
-/
theorem runOn_isolates_purge :
    let policy : Policy :=
      ⟨"purge", none, [], [], ⟨.delete, Dictionary.empty⟩⟩
    let launch : Launcher :=
      fun world _ => (.error .noWords, world)
    let gone : Entry := .ofPath "/gone"
    let stage : Stage Script Script :=
      { index := { title := "index" }
        live :=
          { title := "live"
            capabilities := { delete := true }
            again := [("/gone", .ok none)] }
        out := {}
        world := {} }
    let front : List Fetch := [.entry (.ofPath "/first")]
    let back : List Fetch := [.again, .entry (.ofPath "/last")]
    let met :=
      policy.runOn launch {} (front ++ .entry gone :: back)
        stage
    let spared := policy.runOn launch {} (front ++ back) stage
    policy.Misses launch {} stage front gone ∧
      Skips gone met spared ∧
      (met.1.map RunStats.vanished).toOption = some 1 ∧
      (spared.1.map RunStats.vanished).toOption = some 0 ∧
      (met.1.map RunStats.applied).toOption = some 2 := by
  intro policy launch gone stage front back met spared
  have hMisses : policy.Misses launch {} stage front gone := by
    intro start opened hQuery reached entry hFresh
    cases hQuery
    exact nomatch hFresh
  have hLaunch : launch.IgnoresLog :=
    fun _ hWorld => ⟨rfl, hWorld⟩
  have hFront : ∀ step ∈ front, step.isLast = false := by
    intro step hStep
    rw [List.mem_singleton.1 hStep]
    rfl
  have hIsolates :=
    (runOn_isolates policy {} stage launch).2.1 inferInstance
      inferInstance hLaunch front gone back hFront hMisses
  refine ⟨hMisses, hIsolates.1, ?met, ?spared, ?applied⟩
  case met => decide +kernel
  case spared => decide +kernel
  case applied => decide +kernel

end Policy

end TreeKeeper
