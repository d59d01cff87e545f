import TreeKeeper.Proofs.Search.Execution

/-
  Plans of searches.  The arguments of a search, together
  with its predicates and its reference time, tell which
  actions are executed in which order, on which filter each,
  and at which fault the search ends.  What the stores hold
  only tells where the plan is left early.

  Key definitions include:
    * `Search.Deed`
    * `Search.Plan`
    * `Search.plan`
    * `Search.Completes`

  Main declarations:
    * `Search.run_eq_perform`
    * `Search.run_eq_misuse_iff`
    * `Search.steps_of_completes`
-/

------------------------------------------------------------
-- Plans
------------------------------------------------------------

namespace TreeKeeper

namespace Search

/- An action with what it is executed on. -/
structure Deed where
  filter : Option Filter
  sorts : List SortKey
  action : SearchAction

/- The deeds of a search, and the fault that follows them. -/
structure Plan where
  deeds : List Deed := []
  fault : Option SearchFault := none

/- The plan that has one more deed in front. -/
def Plan.behind
    (plan : Plan)
    (deed : Deed) : Plan :=
  { plan with deeds := deed :: plan.deeds }

/- The deed of an action in a scope. -/
def Scope.deed
    (scope : Scope)
    (action : SearchAction) : Deed :=
  ⟨scope.filter, scope.sorts, action⟩

/- What is planned where no action is asked for any more. -/
def Scope.lastDeeds (scope : Scope) : List Deed :=
  if scope.acted then [] else [scope.deed .print]

/-
  The plan of an expression with actions in a scope, with a
  limit on their number.
-/
def planFrom
    (registry : Registry)
    (now : Int64) :
    Nat → Scope → List String → Plan
| 0, _, _ => {}
| steps + 1, scope, args =>
    match Segment.read registry now args with
    | .error fault => { fault := some (.expression fault) }
    | .ok segment =>
        let scope := scope.extend segment
        match segment.action with
        | none => { deeds := scope.lastDeeds }
        | some request =>
            match SearchAction.ofRequest request with
            | .error fault => { fault := some fault }
            | .ok action =>
                let rest : Plan :=
                  match sequel registry
                      { scope with acted := true }
                      segment.rest with
                  | .finished => {}
                  | .failed fault => { fault := some fault }
                  | .more scope rest =>
                      planFrom registry now steps scope rest
                rest.behind (scope.deed action)

/- The plan of an expression with actions. -/
def plan
    (registry : Registry)
    (now : Int64)
    (args : List String) : Plan :=
  planFrom registry now (args.length + 1) {} args

------------------------------------------------------------
-- Performing Plans
------------------------------------------------------------

variable {β κ : Type}
variable [Store β κ]

/- Execute the action of a deed. -/
def Deed.perform
    (deed : Deed)
    (search : Search β) : Except SearchFault Bool × Search β :=
  execute deed.filter deed.sorts deed.action search

/-
  Perform deeds until one fails or ends the search.  A fault
  may stand behind them.
-/
def performAll
    (last : Option SearchFault) :
    List Deed → Search β → Option SearchFault × Search β
| [], search => (last, search)
| deed :: rest, search =>
    match deed.perform search with
    | (.error fault, search) => (some fault, search)
    | (.ok true, search) => (none, search)
    | (.ok false, search) => performAll last rest search

/- Perform a plan. -/
def Plan.perform
    (plan : Plan)
    (search : Search β) : Option SearchFault × Search β :=
  performAll plan.fault plan.deeds search

theorem now_perform
    (deed : Deed)
    (search : Search β) :
    (deed.perform search).2.now = search.now :=
  (steps_execute deed.filter deed.sorts deed.action
    search).now_eq

theorem conclude_eq_perform
    (scope : Scope)
    (search : Search β) :
    conclude scope search =
      performAll none scope.lastDeeds search := by
  unfold conclude Scope.lastDeeds
  by_cases hActed : scope.acted
  · rw [if_pos hActed, if_pos hActed]
    rfl
  · rw [if_neg hActed, if_neg hActed]
    unfold performAll Deed.perform Scope.deed
    dsimp only
    generalize execute scope.filter scope.sorts .print search =
      result
    rcases result with ⟨ending, after⟩
    cases ending with
    | error fault => rfl
    | ok ends => cases ends <;> rfl

/-
  A search reads its arguments while it acts, and yet it
  performs what was planned beforehand.
-/
theorem runFrom_eq_perform
    (registry : Registry)
    (steps : Nat)
    (scope : Scope)
    (args : List String)
    (search : Search β) :
    runFrom registry steps scope args search =
      (planFrom registry search.now steps scope args).perform
        search := by
  induction steps generalizing scope args search with
  | zero => rfl
  | succ steps ih =>
      unfold runFrom planFrom
      cases Segment.read registry search.now args with
      | error fault => rfl
      | ok segment =>
          dsimp only
          cases segment.action with
          | none => exact conclude_eq_perform _ search
          | some request =>
              dsimp only
              cases SearchAction.ofRequest request with
              | error fault => rfl
              | ok action =>
                  have hNow := now_perform
                    ((scope.extend segment).deed action) search
                  unfold Plan.behind Plan.perform performAll
                  unfold Deed.perform Scope.deed at hNow ⊢
                  dsimp only at hNow ⊢
                  generalize execute _ _ action search =
                    result at hNow ⊢
                  rcases result with ⟨ending, after⟩
                  cases ending with
                  | error fault => rfl
                  | ok ends =>
                      cases ends with
                      | true => rfl
                      | false =>
                          dsimp only at hNow ⊢
                          generalize sequel registry _
                            segment.rest = next
                          cases next with
                          | finished => rfl
                          | failed fault => rfl
                          | more scope rest =>
                              rw [← hNow]
                              exact ih scope rest after

theorem run_eq_perform
    (args : List String)
    (search : Search β) :
    run args search =
      match (plan (registry search.stores) search.now
          args).perform search with
      | (some fault, search) => (some fault, search)
      | (none, search) => search.finish := by
  unfold run plan
  rewrite [runFrom_eq_perform]
  rfl

------------------------------------------------------------
-- Completed Deeds
------------------------------------------------------------

/- Deeds that were performed one by one, each to its end. -/
inductive Completes :
    List Deed → Search β → Search β → Prop
| nil (search : Search β) : Completes [] search search
| cons
    {deed : Deed}
    {rest : List Deed}
    {search between after : Search β}
    (hDeed : deed.perform search = (.ok false, between))
    (hRest : Completes rest between after) :
    Completes (deed :: rest) search after

/-
  A plan only ends in a misuse that was planned, and behind
  deeds that are all completed.
-/
theorem completes_of_perform
    {plan : Plan}
    {fault : SearchFault}
    {search after : Search β}
    (hPerform : plan.perform search = (some fault, after))
    (hMisuse : fault.IsMisuse) :
    plan.fault = some fault ∧
      Completes plan.deeds search after := by
  rcases plan with ⟨deeds, last⟩
  unfold Plan.perform at hPerform
  dsimp only at hPerform ⊢
  induction deeds generalizing search with
  | nil =>
      cases hPerform
      exact ⟨rfl, .nil _⟩
  | cons deed rest ih =>
      unfold performAll at hPerform
      cases hDeed : deed.perform search with
      | mk ending between =>
          rw [hDeed] at hPerform
          rcases ending with failure | ends
          · cases hPerform
            exact absurd hMisuse (not_isMisuse_of_execute hDeed)
          · cases ends with
            | true => exact nomatch hPerform
            | false =>
                rcases ih hPerform with ⟨hLast, hRest⟩
                exact ⟨hLast, .cons hDeed hRest⟩

theorem perform_of_completes
    {last : Option SearchFault}
    {deeds : List Deed}
    {search after : Search β}
    (hDeeds : Completes deeds search after) :
    performAll last deeds search = (last, after) := by
  induction hDeeds with
  | nil search => rfl
  | cons hDeed hRest ih =>
      unfold performAll
      rw [hDeed]
      exact ih

/-
  A search ends in a misuse exactly if that is planned and
  all deeds in front of it are completed.
-/
theorem run_eq_misuse_iff
    {args : List String}
    {search after : Search β}
    {fault : SearchFault}
    (hMisuse : fault.IsMisuse) :
    run args search = (some fault, after) ↔
      (plan (registry search.stores) search.now args).fault =
          some fault ∧
        Completes
          (plan (registry search.stores) search.now args).deeds
          search after := by
  rw [run_eq_perform]
  constructor
  · intro hRun
    split at hRun
    · rename_i hPerform
      cases hRun
      exact completes_of_perform hPerform hMisuse
    · exact absurd hMisuse (not_isMisuse_of_finish hRun)
  · rintro ⟨hFault, hDeeds⟩
    unfold Plan.perform
    rw [perform_of_completes hDeeds, hFault]

/- Completed deeds take only steps of their own kinds. -/
theorem steps_of_completes
    {deeds : List Deed}
    {search after : Search β}
    (hDeeds : Completes deeds search after) :
    Steps
      (fun kind => ∃ deed ∈ deeds, deed.action.Takes kind)
      search after := by
  induction hDeeds with
  | nil search => exact .refl search
  | @cons deed rest search between after hDeed _ ih =>
      have hFirst :
          Steps deed.action.Takes search
            (deed.perform search).2 :=
        steps_execute deed.filter deed.sorts deed.action search
      rw [hDeed] at hFirst
      refine Steps.trans (hFirst.mono ?_) (ih.mono ?_)
      · intro kind hTakes
        exact ⟨deed, List.mem_cons_self, hTakes⟩
      · rintro kind ⟨other, hOther, hTakes⟩
        exact ⟨other, List.mem_cons_of_mem _ hOther, hTakes⟩

end Search

end TreeKeeper
