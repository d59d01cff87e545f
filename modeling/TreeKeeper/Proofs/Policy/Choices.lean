import TreeKeeper.Proofs.Policy.Ending

/-
  What a run decides.  For each entry that its cursor hands
  out, a run chooses the action that its cache prepares for
  the present form of the entry, if there is one, and does to
  its stage what applying this action does.

  Key definitions include:
    * `Course.choice?`
    * `Decision`
    * `Course.decisions`
    * `Policy.decisions`

  Main declarations:
    * `Course.choice?_of_isFaithful`
    * `Course.stage_handle`
-/

------------------------------------------------------------
-- Choices
------------------------------------------------------------

namespace TreeKeeper

/-
  A decision of a run: the path of an entry, the name of the
  rule that decides about it, and the kind of its action.
-/
structure Decision where
  path : String
  rule : String
  kind : ActionKind
deriving DecidableEq

variable {β γ κ μ : Type}

namespace Course

section Live

variable [Store γ μ]

/-
  The present form of an entry of the index, with the action
  that the cache of a run hands out for it.
-/
def choice?
    (policy : Policy)
    (stale : Entry)
    (course : Course β γ) : Option (Entry × Prepared) :=
  match Store.fresh course.stage.live stale
      course.stage.world with
  | .ok (some entry) =>
      (course.cache.prepare policy
        (policy.select entry)).1.map fun prepared =>
          (entry, prepared)
  | _ => none

/- The decision about an entry of the index. -/
def decision?
    (policy : Policy)
    (stale : Entry)
    (course : Course β γ) : Option Decision :=
  (course.choice? policy stale).map fun chosen =>
    ⟨chosen.1.path, chosen.2.rule, chosen.2.kind⟩

/- A faithful cache hands out what the policy says. -/
theorem choice?_of_isFaithful
    {policy : Policy}
    {course : Course β γ}
    (hCache : course.cache.IsFaithful policy)
    (stale : Entry) :
    course.choice? policy stale =
      match Store.fresh course.stage.live stale
          course.stage.world with
      | .ok (some entry) =>
          (policy.prepared? (policy.select entry)).map
            fun prepared => (entry, prepared)
      | _ => none := by
  unfold choice?
  split
  · rw [ActionCache.prepare_of_isFaithful hCache]
  · rfl

end Live

variable [Store β κ] [Store γ μ]

------------------------------------------------------------
-- Decisions Of Runs
------------------------------------------------------------

/- The decisions of a run while it asks its cursor. -/
def decisions
    (launch : Launcher)
    (policy : Policy)
    (dryRun : Bool) :
    Nat → κ → Course β γ → List Decision
| 0, _, _ => []
| steps + 1, cursor, course =>
    match Store.fetch β cursor course.stage.world with
    | (.finished, _, _) => []
    | (.failed _, _, _) => []
    | (.again, cursor, world) =>
        decisions launch policy dryRun steps cursor
          (course.withWorld world)
    | (.entry stale, cursor, world) =>
        let course := course.withWorld world
        (course.decision? policy stale).toList ++
          decisions launch policy dryRun steps cursor
            (course.handle launch policy dryRun stale)

end Course

/- The decisions of the run of a policy, in their order. -/
def Policy.decisions
    [Store β κ]
    [Store γ μ]
    (policy : Policy)
    (launch : Launcher)
    (options : QueryOptions)
    (stage : Stage β γ) : List Decision :=
  match policy.query (policy.queryOptions options)
      (policy.announce stage) with
  | (.error _, _) => []
  | (.ok cursor, opened) =>
      (opening opened).decisions launch policy options.dryRun
        (Store.bound β cursor opened.world + 1) cursor

------------------------------------------------------------
-- Carrying Out
------------------------------------------------------------

namespace Course

variable [Store β κ] [Store γ μ]

theorem stage_conclude
    (course : Course β γ)
    (prepared : Prepared)
    (entry : Entry)
    (result : Except ApplyFault Unit) :
    ∃ world,
      (course.conclude prepared entry result).stage =
        { course.stage with world := world } := by
  cases result with
  | ok done => exact ⟨course.stage.world, rfl⟩
  | error fault => exact ⟨_, rfl⟩

/- What is done to a stage is what a prepared action does. -/
theorem stage_perform
    (launch : Launcher)
    (policy : Policy)
    (dryRun : Bool)
    (selection : Selection)
    (entry : Entry)
    (course : Course β γ) :
    ∃ world,
      (course.perform launch policy dryRun selection
          entry).stage =
        match (course.cache.prepare policy selection).1 with
        | none => { course.stage with world := world }
        | some prepared =>
            { (course.stage.apply launch prepared dryRun
                entry).2 with world := world } := by
  unfold perform
  generalize course.cache.prepare policy selection = found
  rcases found with ⟨prepared?, cache⟩
  cases prepared? with
  | none => exact ⟨course.stage.world, rfl⟩
  | some prepared => exact stage_conclude _ _ _ _

/-
  A run does to its stage, but for the log, what applying the
  chosen action does, and nothing if there is none.
-/
theorem stage_handle
    (launch : Launcher)
    (policy : Policy)
    (dryRun : Bool)
    (stale : Entry)
    (course : Course β γ) :
    ∃ answer success world,
      (course.handle launch policy dryRun stale).stage =
        match course.choice? policy stale with
        | none =>
            { (course.answered stale answer success).stage
                with world := world }
        | some (entry, prepared) =>
            { ((course.answered stale answer
                  success).stage.apply launch prepared dryRun
                entry).2 with world := world } := by
  rw [handle_eq]
  unfold choice?
  cases Store.fresh course.stage.live stale
      course.stage.world with
  | error fault => exact ⟨none, false, _, rfl⟩
  | ok answer =>
      cases answer with
      | none => exact ⟨none, true, _, rfl⟩
      | some entry =>
          refine ⟨some entry, true, ?_⟩
          unfold Course.decide
          dsimp only
          rcases stage_perform launch policy dryRun
              (policy.select entry) entry
              ((course.answered stale (some entry)
                true).countSelection
                  (policy.select entry)) with
            ⟨world, hStage⟩
          rw [hStage, stage_countSelection,
            cache_countSelection]
          refine ⟨world, ?_⟩
          have hCache :
              (course.answered stale (some entry)
                true).cache = course.cache := rfl
          rw [hCache]
          cases (course.cache.prepare policy
            (policy.select entry)).1 <;> rfl

end Course

end TreeKeeper
