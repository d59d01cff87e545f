import TreeKeeper.Proofs.Policy.Handling

/-
  The course of a run.  It asks the cursor of its query again
  and again, until the cursor has nothing more, fails, or was
  asked as often as its bound allows, and it handles the
  entries one by one.

  Key definitions include:
    * `Course.Passes`
    * `Course.PassesIn`
    * `Course.Ends`
    * `Stage.Adds`

  Main declarations:
    * `Course.ends_of_drive`
    * `Course.isFaithful_of_passes`
    * `Course.holds_of_passes`
    * `Course.adds_of_passes`
-/

------------------------------------------------------------
-- Passing Through A Run
------------------------------------------------------------

namespace TreeKeeper

variable {β γ κ μ : Type}
variable [Store β κ] [Store γ μ]

namespace Course

section Runs

variable (launch : Launcher) (policy : Policy)
variable (dryRun : Bool)
variable (start : κ) (opened : Course β γ)

/-
  The states that a run passes: a cursor to ask next, and the
  course so far.
-/
inductive Passes : κ → Course β γ → Prop
| start : Passes start opened
| again
    {cursor next : κ}
    {course : Course β γ}
    {world : World}
    (hPasses : Passes cursor course)
    (hFetch :
      Store.fetch β cursor course.stage.world =
        (.again, next, world)) :
    Passes next (course.withWorld world)
| entry
    {cursor next : κ}
    {course : Course β γ}
    {world : World}
    {stale : Entry}
    (hPasses : Passes cursor course)
    (hFetch :
      Store.fetch β cursor course.stage.world =
        (.entry stale, next, world)) :
    Passes next
      ((course.withWorld world).handle launch policy dryRun
        stale)

/-
  The states that a run passes, and how often the cursor was
  asked before.
-/
inductive PassesIn : Nat → κ → Course β γ → Prop
| start : PassesIn 0 start opened
| again
    {n : Nat}
    {cursor next : κ}
    {course : Course β γ}
    {world : World}
    (hPasses : PassesIn n cursor course)
    (hFetch :
      Store.fetch β cursor course.stage.world =
        (.again, next, world)) :
    PassesIn (n + 1) next (course.withWorld world)
| entry
    {n : Nat}
    {cursor next : κ}
    {course : Course β γ}
    {world : World}
    {stale : Entry}
    (hPasses : PassesIn n cursor course)
    (hFetch :
      Store.fetch β cursor course.stage.world =
        (.entry stale, next, world)) :
    PassesIn (n + 1) next
      ((course.withWorld world).handle launch policy dryRun
        stale)

/-
  How a run ends that may ask the cursor as often as a limit
  says: with the fault of the cursor, if it fails.
-/
inductive Ends
    (limit : Nat) :
    Option StoreFault → Course β γ → Prop
| finished
    {n : Nat}
    {cursor next : κ}
    {course : Course β γ}
    {world : World}
    (hPasses :
      PassesIn launch policy dryRun start opened n cursor
        course)
    (hLimit : n < limit)
    (hFetch :
      Store.fetch β cursor course.stage.world =
        (.finished, next, world)) :
    Ends limit none (course.withWorld world)
| failed
    {n : Nat}
    {cursor next : κ}
    {course : Course β γ}
    {world : World}
    {fault : StoreFault}
    (hPasses :
      PassesIn launch policy dryRun start opened n cursor
        course)
    (hLimit : n < limit)
    (hFetch :
      Store.fetch β cursor course.stage.world =
        (.failed fault, next, world)) :
    Ends limit (some fault) (course.withWorld world)
| limited
    {cursor : κ}
    {course : Course β γ}
    (hPasses :
      PassesIn launch policy dryRun start opened limit
        cursor course) :
    Ends limit none course

end Runs

variable {launch : Launcher} {policy : Policy}
variable {dryRun : Bool}
variable {start : κ} {opened : Course β γ}

theorem PassesIn.passes
    {n : Nat}
    {cursor : κ}
    {course : Course β γ}
    (hPasses :
      PassesIn launch policy dryRun start opened n cursor
        course) :
    Passes launch policy dryRun start opened cursor
      course := by
  induction hPasses with
  | start => exact .start
  | again hPasses hFetch ih => exact .again ih hFetch
  | entry hPasses hFetch ih => exact .entry ih hFetch

/- A run asks the cursor until it ends. -/
theorem ends_of_drive
    (steps : Nat)
    {n : Nat}
    {cursor : κ}
    {course : Course β γ}
    (hPasses :
      PassesIn launch policy dryRun start opened n cursor
        course) :
    Ends launch policy dryRun start opened (n + steps)
      (course.drive launch policy dryRun steps cursor).1
      (course.drive launch policy dryRun steps
        cursor).2 := by
  induction steps generalizing n cursor course with
  | zero => exact .limited hPasses
  | succ steps ih =>
      have hLimit : n < n + (steps + 1) := by omega
      have hSteps : n + (steps + 1) = n + 1 + steps := by
        omega
      unfold drive
      split
      · rename_i hFetch
        exact .finished hPasses hLimit hFetch
      · rename_i hFetch
        exact .failed hPasses hLimit hFetch
      · rename_i hFetch
        rw [hSteps]
        exact ih (.again hPasses hFetch)
      · rename_i hFetch
        rw [hSteps]
        exact ih (.entry hPasses hFetch)

/- A run ends in a state it passes, but for the world. -/
theorem Ends.exists_passes
    {limit : Nat}
    {fault : Option StoreFault}
    {final : Course β γ}
    (hEnds :
      Ends launch policy dryRun start opened limit fault
        final) :
    ∃ cursor course,
      Passes launch policy dryRun start opened cursor
        course ∧
      (final = course ∨
        final = course.withWorld
          (Store.fetch β cursor course.stage.world).2.2) := by
  cases hEnds with
  | finished hPasses hLimit hFetch =>
      refine ⟨_, _, hPasses.passes, .inr ?_⟩
      rw [hFetch]
  | failed hPasses hLimit hFetch =>
      refine ⟨_, _, hPasses.passes, .inr ?_⟩
      rw [hFetch]
  | limited hPasses => exact ⟨_, _, hPasses.passes, .inl rfl⟩

/- The cache of a run stays faithful. -/
theorem isFaithful_of_passes
    {cursor : κ}
    {course : Course β γ}
    (hOpened : opened.cache.IsFaithful policy)
    (hPasses :
      Passes launch policy dryRun start opened cursor
        course) :
    course.cache.IsFaithful policy := by
  induction hPasses with
  | start => exact hOpened
  | again hPasses hFetch ih => exact ih
  | entry hPasses hFetch ih =>
      exact isFaithful_handle launch dryRun _ ih

/- An invariant holds in all states that a run passes. -/
theorem holds_of_passes
    {holds : Stage β γ → Prop}
    {cursor : κ}
    {course : Course β γ}
    (hInvariant : Stage.Invariant policy launch dryRun holds)
    (hCache : opened.cache.IsFaithful policy)
    (hOpened : holds opened.stage)
    (hPasses :
      Passes launch policy dryRun start opened cursor
        course) :
    holds course.stage := by
  induction hPasses with
  | start => exact hOpened
  | @again cursor _ course world hPasses hFetch ih =>
      have hWorld := hInvariant.fetch course.stage cursor ih
      rw [hFetch] at hWorld
      exact hWorld
  | @entry cursor _ course world stale hPasses hFetch ih =>
      have hWorld := hInvariant.fetch course.stage cursor ih
      rw [hFetch] at hWorld
      have hKept : course.cache.IsFaithful policy :=
        isFaithful_of_passes hCache hPasses
      exact holds_handle hInvariant stale hKept hWorld

/- The statistics of a course with those of its actions. -/
def totals (course : Course β γ) : RunStats :=
  { course.stats with kinds := course.cache.release.1 }

end Course

------------------------------------------------------------
-- Events Of A Course
------------------------------------------------------------

/- Whether a stage has more events, all of a given kind. -/
def Stage.Adds
    (kind : Event Side → Prop)
    (before after : Stage β γ) : Prop :=
  ∃ events,
    after.events = before.events ++ events ∧
    ∀ event ∈ events, kind event

namespace Stage.Adds

variable {kind : Event Side → Prop}
variable {first second third : Stage β γ}

theorem of_eq
    (hEvents : second.events = first.events) :
    first.Adds kind second := by
  refine ⟨[], ?_, ?_⟩
  · rw [hEvents, List.append_nil]
  · simp

theorem single
    {event : Event Side}
    (hEvents : second.events = first.events ++ [event])
    (hKind : kind event) :
    first.Adds kind second := by
  refine ⟨[event], hEvents, ?_⟩
  simpa using hKind

theorem trans
    (hFirst : first.Adds kind second)
    (hSecond : second.Adds kind third) :
    first.Adds kind third := by
  rcases hFirst with ⟨events, hEvents, hKinds⟩
  rcases hSecond with ⟨more, hMore, hOthers⟩
  refine ⟨events ++ more, ?_, ?_⟩
  · rw [hMore, hEvents, List.append_assoc]
  · intro event hEvent
    rcases List.mem_append.1 hEvent with hOld | hNew
    · exact hKinds event hOld
    · exact hOthers event hNew

end Stage.Adds

/- What all handled entries add is what a run adds. -/
theorem Course.adds_of_passes
    {kind : Event Side → Prop}
    {launch : Launcher}
    {policy : Policy}
    {dryRun : Bool}
    {start cursor : κ}
    {opened course : Course β γ}
    (hHandles :
      ∀ (course : Course β γ) stale events,
        Handles policy dryRun course stale events →
          ∀ event ∈ events, kind event)
    (hOpened : opened.cache.IsFaithful policy)
    (hPasses :
      Passes launch policy dryRun start opened cursor
        course) :
    opened.stage.Adds kind course.stage := by
  induction hPasses with
  | start => exact .of_eq rfl
  | again hPasses hFetch ih => exact ih
  | @entry _ _ course world stale hPasses hFetch ih =>
      have hKept :
          (course.withWorld world).cache.IsFaithful
            policy := by
        have hCache : course.cache.IsFaithful policy :=
          isFaithful_of_passes hOpened hPasses
        exact hCache
      rcases handles_of_handle launch dryRun stale hKept with
        ⟨events, hEvents, hHandled⟩
      have hAdds :
          course.stage.Adds kind
            ((course.withWorld world).handle launch policy
              dryRun stale).stage :=
        ⟨events, hEvents, hHandles _ _ _ hHandled⟩
      exact ih.trans hAdds

end TreeKeeper
