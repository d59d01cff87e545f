import Mathlib.Data.List.Forall2
import TreeKeeper.Proofs.Policy.Ending
import TreeKeeper.Store.Script

/-
  Runs whose cursor follows a script, on stores that are
  otherwise arbitrary.  Such a run handles the entries of the
  script in their order, up to its first end or fault, and
  steps that ask to come again make no difference to it.

  Key definitions include:
    * `Store.scripted`
    * `Policy.runOn`
    * `Course.follow`
    * `Fetch.entries`

  Main declarations:
    * `Course.drive_scripted`
    * `Policy.runOn_eq`
    * `Course.follow_append`
    * `Course.follow_skipAgain`
    * `Course.blocks_of_follow`
-/

------------------------------------------------------------
-- Scripts
------------------------------------------------------------

namespace TreeKeeper

namespace Fetch

/- Whether a cursor yields nothing behind a step. -/
def isLast : Fetch → Bool
| finished => true
| failed _ => true
| entry _ => false
| again => false

/- Whether a step asks to come again. -/
def isAgain : Fetch → Bool
| again => true
| _ => false

/- The entries of a script up to its end or a fault. -/
def entries : List Fetch → List Entry
| [] => []
| finished :: _ => []
| failed _ :: _ => []
| again :: rest => entries rest
| entry stale :: rest => stale :: entries rest

/- A script without the steps that ask to come again. -/
def skipAgain (steps : List Fetch) : List Fetch :=
  steps.filter fun step => !step.isAgain

end Fetch

variable {β γ κ μ : Type}

/-
  The stores of a type, but with given steps as the answer to
  every query that they accept.
-/
abbrev Store.scripted
    [Store β κ]
    (steps : List Fetch) : Store β (List Fetch) where
  name := Store.name
  capabilities := Store.capabilities
  predicates := Store.predicates
  query := fun store filter options projection world =>
    let (result, world) :=
      Store.query store filter options projection world
    (result.map fun _ => steps, world)
  fetch := Script.nextStep
  bound := fun steps _ => steps.length
  fresh := Store.fresh
  remove := Store.remove
  migrate := Store.migrate
  flush := Store.flush
  location? := Store.location?

variable [Store β κ] [Store γ μ]

/- Run a policy with a script for the cursor of its query. -/
def Policy.runOn
    (policy : Policy)
    (launch : Launcher)
    (options : QueryOptions)
    (steps : List Fetch)
    (stage : Stage β γ) :
    Except RunFault RunStats × Stage β γ :=
  letI : Store β (List Fetch) := Store.scripted steps
  policy.run launch options stage

------------------------------------------------------------
-- Following Scripts
------------------------------------------------------------

namespace Course

/- Handle the entries of a script up to its end or a fault. -/
def follow
    (launch : Launcher)
    (policy : Policy)
    (dryRun : Bool) :
    List Fetch → Course β γ → Option StoreFault × Course β γ
| [], course => (none, course)
| .finished :: _, course => (none, course)
| .failed fault :: _, course => (some fault, course)
| .again :: rest, course =>
    follow launch policy dryRun rest course
| .entry stale :: rest, course =>
    follow launch policy dryRun rest
      (course.handle launch policy dryRun stale)

variable (launch : Launcher) (policy : Policy)
variable (dryRun : Bool)

/- A run with a script follows it. -/
theorem drive_scripted
    (whole steps : List Fetch)
    (course : Course β γ)
    {limit : Nat}
    (hLimit : steps.length < limit) :
    @drive β γ (List Fetch) μ (Store.scripted whole) _ launch
        policy dryRun limit steps course =
      course.follow launch policy dryRun steps := by
  induction steps generalizing limit course with
  | nil =>
      cases limit with
      | zero => exact absurd hLimit (Nat.not_lt_zero 0)
      | succ limit => rfl
  | cons step rest ih =>
      cases limit with
      | zero => exact absurd hLimit (Nat.not_lt_zero _)
      | succ limit =>
          have hRest : rest.length < limit :=
            Nat.lt_of_succ_lt_succ hLimit
          cases step with
          | finished => rfl
          | failed fault => rfl
          | again => exact ih course hRest
          | entry stale => exact ih _ hRest

variable {launch policy dryRun}

theorem follow_skipAgain
    (steps : List Fetch)
    (course : Course β γ) :
    course.follow launch policy dryRun
        (Fetch.skipAgain steps) =
      course.follow launch policy dryRun steps := by
  induction steps generalizing course with
  | nil => rfl
  | cons step rest ih =>
      cases step with
      | finished => rfl
      | failed fault => rfl
      | again => exact ih course
      | entry stale => exact ih _

/- A script goes on behind steps that do not end it. -/
theorem follow_append
    {front : List Fetch}
    (hFront : ∀ step ∈ front, step.isLast = false)
    (back : List Fetch)
    (course : Course β γ) :
    course.follow launch policy dryRun (front ++ back) =
      (course.follow launch policy dryRun
        front).2.follow launch policy dryRun back := by
  induction front generalizing course with
  | nil => rfl
  | cons step rest ih =>
      have hStep := hFront step List.mem_cons_self
      have hRest : ∀ other ∈ rest, other.isLast = false := by
        intro other hOther
        exact hFront other (List.mem_cons_of_mem step hOther)
      cases step with
      | finished => exact nomatch hStep
      | failed fault => exact nomatch hStep
      | again => exact ih hRest course
      | entry stale => exact ih hRest _

/-
  The events of following a script come in blocks, one for
  each of its entries and in their order.
-/
theorem blocks_of_follow
    (steps : List Fetch)
    {course : Course β γ}
    (hCache : course.cache.IsFaithful policy) :
    ∃ blocks,
      (course.follow launch policy dryRun
          steps).2.stage.events =
        course.stage.events ++ blocks.flatten ∧
      List.Forall₂
        (fun stale block =>
          ∃ before : Course β γ,
            Handles policy dryRun before stale block)
        (Fetch.entries steps) blocks := by
  induction steps generalizing course with
  | nil => exact ⟨[], (List.append_nil _).symm, .nil⟩
  | cons step rest ih =>
      cases step with
      | finished => exact ⟨[], (List.append_nil _).symm, .nil⟩
      | failed fault =>
          exact ⟨[], (List.append_nil _).symm, .nil⟩
      | again => exact ih hCache
      | entry stale =>
          rcases handles_of_handle launch dryRun stale
              hCache with
            ⟨block, hBlock, hHandles⟩
          rcases ih (isFaithful_handle launch dryRun stale
              hCache) with
            ⟨blocks, hBlocks, hRest⟩
          refine ⟨block :: blocks, ?_,
            .cons ⟨course, hHandles⟩ hRest⟩
          rw [List.flatten_cons, ← List.append_assoc,
            ← hBlock]
          exact hBlocks

end Course

namespace Policy

variable (policy : Policy) (launch : Launcher)
variable (options : QueryOptions)

theorem succeeded_map
    {ε α δ : Type}
    (f : α → δ)
    (result : Except ε α) :
    succeeded (result.map f) = succeeded result := by
  cases result <;> rfl

theorem query_scripted
    (steps : List Fetch)
    (stage : Stage β γ) :
    @query β γ (List Fetch) (Store.scripted steps) policy
        options stage =
      ((policy.query options stage).1.map fun _ => steps,
        (policy.query options stage).2) := by
  have hSuccess :=
    succeeded_map (fun _ => steps)
      (Store.query stage.index policy.filter options {}
        stage.world).1
  refine Prod.ext rfl ?_
  exact congrArg
    (fun success =>
      ({ stage with
        world :=
          (Store.query stage.index policy.filter options {}
            stage.world).2 } : Stage β γ).record
        (.called .index (.query policy.filter options)
          success))
    hSuccess

/-
  A run with a script asks its query, follows the script if
  that is accepted, and closes what it has come to.
-/
theorem runOn_eq
    (steps : List Fetch)
    (stage : Stage β γ) :
    policy.runOn launch options steps stage =
      match policy.query (policy.queryOptions options)
          (policy.announce stage) with
      | (.error fault, opened) =>
          policy.close (some (.query fault)) {} opened
      | (.ok _, opened) =>
          let driven :=
            (opening opened).follow launch policy
              options.dryRun steps
          policy.close (driven.1.map .iteration)
            driven.2.totals driven.2.stage := by
  have hClose : ∀ fault stats (before : Stage β γ),
      @close β γ (List Fetch) μ (Store.scripted steps) _
          policy fault stats before =
        policy.close fault stats before := fun _ _ _ => rfl
  unfold runOn
  rw [@run_eq β γ (List Fetch) μ (Store.scripted steps),
    query_scripted]
  generalize policy.query (policy.queryOptions options)
    (policy.announce stage) = asked
  rcases asked with ⟨result, opened⟩
  cases result with
  | error fault => exact hClose _ _ _
  | ok start =>
      have hLimit :
          steps.length <
            @Store.bound β (List Fetch) (Store.scripted steps)
              steps opened.world + 1 :=
        Nat.lt_succ_self steps.length
      dsimp only [Except.map]
      rw [hClose,
        Course.drive_scripted launch policy options.dryRun
          steps steps _ hLimit]

end Policy

end TreeKeeper
