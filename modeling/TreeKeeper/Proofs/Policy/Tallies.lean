import Mathlib.Algebra.GroupWithZero.Nat
import TreeKeeper.Proofs.Policy.Decision

/-
  Outcomes counted by kind.  Recording an outcome is silent
  for a kind that was never set up, so the counts are right
  only because every action that is handed out is of a kind
  that is set up, also if it was prepared long before.

  Key definitions include:
    * `ActionKind.timesIn`
    * `ActionCache.sum`
    * `ActionCache.Tallies`

  Main declarations:
    * `ActionCache.lookup_report`
    * `ActionCache.state?_record_prepare`
    * `ActionCache.sum_record_prepare`
    * `ActionCache.Tallies.record_prepare`
-/

------------------------------------------------------------
-- States Of Kinds
------------------------------------------------------------

namespace TreeKeeper

namespace ActionCache

theorem lookup_countIn
    (kind other : ActionKind)
    (success : Bool)
    (kinds : List (ActionKind × KindState)) :
    (countIn kind success kinds).lookup other =
      if other = kind then
        (kinds.lookup kind).map (KindState.count · success)
      else kinds.lookup other := by
  induction kinds with
  | nil => simp [countIn]
  | cons first rest ih =>
      rcases first with ⟨known, state⟩
      unfold countIn
      by_cases hKnown : known = kind
      · rw [if_pos hKnown, hKnown]
        simp only [Dictionary.lookup_cons_eq_ite]
        by_cases hOther : other = kind
        · simp [hOther]
        · simp [hOther]
      · rw [if_neg hKnown]
        simp only [Dictionary.lookup_cons_eq_ite, ih]
        by_cases hOther : other = kind
        · simp [hOther, Ne.symm hKnown]
        · simp [hOther]

/- An outcome is counted for its own kind, if that is known. -/
theorem state?_record
    (cache : ActionCache)
    (kind other : ActionKind)
    (success : Bool) :
    (cache.record kind success).state? other =
      if other = kind then
        (cache.state? kind).map (KindState.count · success)
      else cache.state? other :=
  lookup_countIn kind other success cache.kinds

/- The state of a kind, or that of a kind just set up. -/
def stateOf
    (cache : ActionCache)
    (kind : ActionKind) : KindState :=
  (cache.state? kind).getD
    { supported := kind.isSupported cache.capabilities }

theorem state?_setUp
    (cache : ActionCache)
    (kind other : ActionKind) :
    (cache.setUp kind).state? other =
      if other = kind then some (cache.stateOf kind)
      else cache.state? other := by
  unfold setUp stateOf
  cases hState : cache.state? kind with
  | some state =>
      by_cases hOther : other = kind
      · rw [hOther, if_pos rfl]
        exact hState
      · rw [if_neg hOther]
  | none =>
      unfold state?
      dsimp only
      rw [Dictionary.lookup_cons_eq_ite]
      rfl

theorem state?_keep
    (cache : ActionCache)
    (selection : Selection)
    (prepared : Prepared)
    (kind : ActionKind) :
    (cache.keep selection prepared).state? kind =
      cache.state? kind := by
  unfold keep
  split <;> rfl

/- The kinds of all actions that are kept are set up. -/
def IsReady (cache : ActionCache) : Prop :=
  ∀ selection prepared,
    cache.slots.lookup selection = some prepared →
      (cache.state? prepared.kind).isSome

variable {cache : ActionCache} {policy : Policy}
variable {selection : Selection} {action : Action}

/-
  Preparing an action leaves its kind set up, whether the
  action was kept or not.
-/
theorem state?_prepare
    (hFaithful : cache.IsFaithful policy)
    (hReady : cache.IsReady)
    (hAction : policy.actionFor selection = some action)
    (kind : ActionKind) :
    (cache.prepare policy selection).2.state? kind =
      if kind = action.kind then
        some (cache.stateOf action.kind)
      else cache.state? kind := by
  unfold prepare
  rw [hAction]
  cases hKept : cache.slots.lookup selection with
  | none =>
      dsimp only
      rw [state?_keep, state?_setUp]
  | some prepared =>
      have hPrepared := hFaithful selection prepared hKept
      unfold Policy.prepared? at hPrepared
      rw [hAction] at hPrepared
      cases hPrepared
      have hKnown := hReady selection _ hKept
      rcases Option.isSome_iff_exists.1 hKnown with
        ⟨state, hState⟩
      have hSame : cache.state? action.kind = some state :=
        hState
      by_cases hKind : kind = action.kind
      · rw [hKind, if_pos rfl]
        unfold stateOf
        rw [hSame]
        rfl
      · rw [if_neg hKind]

/- An outcome is counted for the action handed out before. -/
theorem state?_record_prepare
    (hFaithful : cache.IsFaithful policy)
    (hReady : cache.IsReady)
    (hAction : policy.actionFor selection = some action)
    (success : Bool)
    (kind : ActionKind) :
    ((cache.prepare policy selection).2.record action.kind
        success).state? kind =
      if kind = action.kind then
        some ((cache.stateOf action.kind).count success)
      else cache.state? kind := by
  have hPrepare := state?_prepare hFaithful hReady hAction
  rw [state?_record, hPrepare, hPrepare]
  by_cases hKind : kind = action.kind
  · simp [hKind]
  · simp [hKind]

theorem slots_prepare
    (cache : ActionCache)
    (hAction : policy.actionFor selection = some action) :
    (cache.prepare policy selection).2.slots = cache.slots ∨
      (cache.prepare policy selection).2.slots =
        (selection,
          action.prepare (policy.ruleName selection)) ::
            cache.slots := by
  unfold prepare
  rw [hAction]
  cases cache.slots.lookup selection with
  | some prepared => exact .inl rfl
  | none =>
      dsimp only
      unfold keep
      split
      · exact .inl (cache.setUp_slots action.kind)
      · right
        dsimp only
        rw [setUp_slots]

/- Only the kind of the recorded action may become known. -/
theorem isSome_state?_record_prepare
    (hFaithful : cache.IsFaithful policy)
    (hReady : cache.IsReady)
    (hAction : policy.actionFor selection = some action)
    (success : Bool)
    (kind : ActionKind) :
    (((cache.prepare policy selection).2.record action.kind
        success).state? kind).isSome ↔
      kind = action.kind ∨ (cache.state? kind).isSome := by
  rw [state?_record_prepare hFaithful hReady hAction]
  by_cases hKind : kind = action.kind
  · simp [hKind]
  · simp [hKind]

theorem isReady_prepare
    (hFaithful : cache.IsFaithful policy)
    (hReady : cache.IsReady)
    (hAction : policy.actionFor selection = some action) :
    (cache.prepare policy selection).2.IsReady := by
  have hState := state?_prepare hFaithful hReady hAction
  intro other prepared hLookup
  rw [hState]
  by_cases hKind : prepared.kind = action.kind
  · rw [if_pos hKind]
    rfl
  · rw [if_neg hKind]
    rcases slots_prepare cache hAction with hSame | hMore
    · rw [hSame] at hLookup
      exact hReady other prepared hLookup
    · rw [hMore, List.lookup_cons] at hLookup
      split at hLookup
      · cases hLookup
        exact absurd rfl hKind
      · exact hReady other prepared hLookup

/- Recording an outcome forgets no kind. -/
theorem IsReady.record
    (hReady : cache.IsReady)
    (kind : ActionKind)
    (success : Bool) :
    (cache.record kind success).IsReady := by
  intro selection prepared hLookup
  have hKnown := hReady selection prepared hLookup
  rw [state?_record]
  by_cases hKind : prepared.kind = kind
  · rw [if_pos hKind, Option.isSome_map, ← hKind]
    exact hKnown
  · rw [if_neg hKind]
    exact hKnown

theorem isReleased_setUp
    (cache : ActionCache)
    (kind : ActionKind) :
    (cache.setUp kind).isReleased = cache.isReleased := by
  unfold setUp
  split <;> rfl

theorem isReleased_prepare
    (cache : ActionCache)
    (policy : Policy)
    (selection : Selection) :
    (cache.prepare policy selection).2.isReleased =
      cache.isReleased := by
  unfold prepare
  split
  · rfl
  · split
    · rfl
    · unfold keep
      split
      · exact cache.isReleased_setUp _
      · exact cache.isReleased_setUp _

------------------------------------------------------------
-- Sums
------------------------------------------------------------

/- The sum of a number over the reported states. -/
def sum
    (cache : ActionCache)
    (number : KindState → Nat) : Nat :=
  (cache.report.map fun item => number item.2).sum

/- The share of a kind in such a sum. -/
def share
    (cache : ActionCache)
    (number : KindState → Nat)
    (kind : ActionKind) : Nat :=
  ((cache.state? kind).map number).getD 0

theorem sum_eq
    (cache : ActionCache)
    (number : KindState → Nat) :
    cache.sum number =
      (ActionKind.all.map (cache.share number)).sum := by
  unfold sum report
  induction ActionKind.all with
  | nil => rfl
  | cons kind rest ih =>
      rw [List.filterMap_cons, List.map_cons, List.sum_cons,
        ← ih]
      unfold share
      cases cache.state? kind with
      | none => simp
      | some state => simp

/- Changing the share of one kind changes the sum alike. -/
theorem sum_add
    {after : ActionCache}
    {number : KindState → Nat}
    {kind : ActionKind}
    {more : Nat}
    (hKind :
      after.share number kind = cache.share number kind + more)
    (hOthers : ∀ other, other ≠ kind →
      after.share number other = cache.share number other) :
    after.sum number = cache.sum number + more := by
  rw [sum_eq, sum_eq]
  cases kind <;>
    simp [ActionKind.all, hKind, hOthers] <;> omega

/-
  A number that is zero at first grows in the sum as it grows
  for the kind of an outcome.
-/
theorem sum_record_prepare
    {number : KindState → Nat}
    {success : Bool}
    (more : Nat)
    (hFresh : ∀ supported,
      number { supported := supported } = 0)
    (hCount : ∀ state : KindState,
      number (state.count success) = number state + more)
    (hFaithful : cache.IsFaithful policy)
    (hReady : cache.IsReady)
    (hAction : policy.actionFor selection = some action) :
    ((cache.prepare policy selection).2.record action.kind
        success).sum number =
      cache.sum number + more := by
  have hState := state?_record_prepare hFaithful hReady
    hAction success
  have hKind :
      ((cache.prepare policy selection).2.record action.kind
          success).share number action.kind =
        cache.share number action.kind + more := by
    unfold share
    rw [hState, if_pos rfl, Option.map_some,
      Option.getD_some, hCount]
    unfold stateOf
    cases cache.state? action.kind with
    | some state => rfl
    | none => rw [Option.getD_none, hFresh]; rfl
  apply sum_add hKind
  intro other hOther
  unfold share
  rw [hState, if_neg hOther]

theorem sum_applied_record_prepare
    (hFaithful : cache.IsFaithful policy)
    (hReady : cache.IsReady)
    (hAction : policy.actionFor selection = some action)
    (success : Bool) :
    ((cache.prepare policy selection).2.record action.kind
        success).sum KindState.applied =
      cache.sum KindState.applied + success.toNat := by
  apply sum_record_prepare _ _ _ hFaithful hReady hAction
  · exact fun supported => rfl
  · intro state
    cases success <;> rfl

theorem sum_failed_record_prepare
    (hFaithful : cache.IsFaithful policy)
    (hReady : cache.IsReady)
    (hAction : policy.actionFor selection = some action)
    (success : Bool) :
    ((cache.prepare policy selection).2.record action.kind
        success).sum KindState.failed =
      cache.sum KindState.failed + (!success).toNat := by
  apply sum_record_prepare _ _ _ hFaithful hReady hAction
  · exact fun supported => rfl
  · intro state
    cases success <;> rfl

------------------------------------------------------------
-- Reports
------------------------------------------------------------

/- A report has the state of each kind that is set up. -/
theorem lookup_report
    (cache : ActionCache)
    (kind : ActionKind) :
    cache.report.lookup kind = cache.state? kind := by
  have hKinds : ∀ kinds : List ActionKind,
      (kinds.filterMap fun other =>
          (cache.state? other).map fun state =>
            (other, state)).lookup kind =
        if kind ∈ kinds then cache.state? kind else none := by
    intro kinds
    induction kinds with
    | nil => rfl
    | cons other rest ih =>
        rw [List.filterMap_cons]
        by_cases hOther : kind = other
        · subst hOther
          cases hState : cache.state? kind with
          | none => simp [hState, ih]
          | some state => simp
        · cases cache.state? other with
          | none => simp [ih, hOther]
          | some state =>
              simp [Dictionary.lookup_cons_eq_ite, ih, hOther]
  have hAll : kind ∈ ActionKind.all := by
    cases kind <;> decide
  unfold report
  rw [hKinds, if_pos hAll]

end ActionCache

------------------------------------------------------------
-- Occurrences
------------------------------------------------------------

namespace ActionKind

/- How often a kind occurs among some actions. -/
def timesIn
    (kind : ActionKind)
    (actions : List Action) : Nat :=
  actions.countP fun action => action.kind = kind

theorem timesIn_append
    (kind : ActionKind)
    (actions : List Action)
    (action : Action) :
    kind.timesIn (actions ++ [action]) =
      kind.timesIn actions +
        if kind = action.kind then 1 else 0 := by
  unfold timesIn
  rw [List.countP_append, List.countP_singleton]
  by_cases hKind : kind = action.kind
  · simp [hKind]
  · simp [hKind, Ne.symm hKind]

theorem timesIn_eq_zero_iff
    {kind : ActionKind}
    {actions : List Action} :
    kind.timesIn actions = 0 ↔
      ¬ ∃ action ∈ actions, action.kind = kind := by
  unfold timesIn
  rw [List.countP_eq_zero]
  simp

end ActionKind

------------------------------------------------------------
-- Tallies
------------------------------------------------------------

namespace ActionCache

/-
  Whether a cache has counted the actions that a policy gave
  so far: it knows exactly their kinds, and has one outcome
  for each of them.  Counting never fails.
-/
structure Tallies
    (cache : ActionCache)
    (policy : Policy)
    (given : List Action) : Prop where
  inUse : cache.isReleased = false
  faithful : cache.IsFaithful policy
  ready : cache.IsReady
  known : ∀ kind,
    (cache.state? kind).isSome ↔
      ∃ action ∈ given, action.kind = kind
  outcomes : ∀ kind state,
    cache.state? kind = some state →
      state.applied + state.failed = kind.timesIn given
  counting : ∀ state,
    cache.state? .count = some state → state.failed = 0

theorem tallies_nil
    (policy : Policy)
    (capabilities : Capabilities) :
    Tallies { capabilities := capabilities } policy [] where
  inUse := rfl
  faithful := isFaithful_of_slots_eq_nil rfl
  ready := nofun
  known := by simp [state?]
  outcomes := nofun
  counting := nofun

variable {cache : ActionCache} {policy : Policy}
variable {selection : Selection} {action : Action}

/- The outcomes of a kind, which may have none yet. -/
theorem Tallies.outcomes_stateOf
    {given : List Action}
    (hTallies : cache.Tallies policy given)
    (kind : ActionKind) :
    (cache.stateOf kind).applied +
        (cache.stateOf kind).failed =
      kind.timesIn given := by
  unfold stateOf
  cases hState : cache.state? kind with
  | some state => exact hTallies.outcomes kind state hState
  | none =>
      have hNone : ¬ ∃ action ∈ given, action.kind = kind := by
        rw [← hTallies.known kind, hState]
        exact nofun
      exact (ActionKind.timesIn_eq_zero_iff.2 hNone).symm

/-
  Giving an action and recording its outcome keeps a cache
  up to date.
-/
theorem Tallies.record_prepare
    {given : List Action}
    {success : Bool}
    (hTallies : cache.Tallies policy given)
    (hAction : policy.actionFor selection = some action)
    (hCount : action.kind = .count → success = true) :
    ((cache.prepare policy selection).2.record action.kind
      success).Tallies policy (given ++ [action]) := by
  have hState := state?_record_prepare hTallies.faithful
    hTallies.ready hAction success
  have hKept :
      ((cache.prepare policy selection).2.record action.kind
        success).IsFaithful policy :=
    isFaithful_prepare hTallies.faithful selection
  have hReady :=
    (isReady_prepare hTallies.faithful hTallies.ready
      hAction).record action.kind success
  refine ⟨?inUse, hKept, hReady, ?known, ?outcomes, ?counting⟩
  case inUse =>
    exact (cache.isReleased_prepare policy selection).trans
      hTallies.inUse
  case known =>
    intro kind
    rw [isSome_state?_record_prepare hTallies.faithful
      hTallies.ready hAction, hTallies.known]
    simp only [List.mem_append, List.mem_singleton]
    constructor
    · rintro (hKind | ⟨other, hOther, hKind⟩)
      · exact ⟨action, .inr rfl, hKind.symm⟩
      · exact ⟨other, .inl hOther, hKind⟩
    · rintro ⟨other, hOther | rfl, hKind⟩
      · exact .inr ⟨other, hOther, hKind⟩
      · exact .inl hKind.symm
  case outcomes =>
    intro kind state hFound
    rw [hState] at hFound
    rw [ActionKind.timesIn_append]
    by_cases hKind : kind = action.kind
    · rw [if_pos hKind] at hFound ⊢
      cases hFound
      rw [← hTallies.outcomes_stateOf kind, ← hKind]
      unfold KindState.count
      cases success with
      | true => dsimp; omega
      | false => dsimp; omega
    · rw [if_neg hKind] at hFound ⊢
      exact hTallies.outcomes kind state hFound
  case counting =>
    intro state hFound
    rw [hState] at hFound
    by_cases hKind : ActionKind.count = action.kind
    · rw [if_pos hKind] at hFound
      cases hFound
      rw [hCount hKind.symm, ← hKind]
      unfold stateOf
      cases hBefore : cache.state? .count with
      | some before => exact hTallies.counting before hBefore
      | none => rfl
    · rw [if_neg hKind] at hFound
      exact hTallies.counting state hFound

end ActionCache

end TreeKeeper
