import TreeKeeper.Proofs.Filter.Regularity
import TreeKeeper.Proofs.Search.Asking
import TreeKeeper.Store.Opened

/-
  The filters that searches hand to their stores.  What an
  action concerns is joined from the expression in front of
  it, the expressions of its group, and the negations of the
  groups before.  None of this makes a filter that stores
  could not rely on.

  Key definitions include:
    * `Event.filter?`
    * `handed`
    * `HandsRegular`
    * `Search.Scope.IsSound`

  Main declarations:
    * `Search.wellFormed_of_plan`
    * `Search.handsRegular_run`
    * `Search.standard_registry`
-/

------------------------------------------------------------
-- Handed Filters
------------------------------------------------------------

namespace TreeKeeper

variable {ι : Type}

/- The filter that a call hands to a store. -/
def Event.filter? : Event ι → Option Filter
| .called _ (.query filter _) _ => filter
| _ => none

/- The filters that stores were handed, in their order. -/
def handed (events : List (Event ι)) : List Filter :=
  events.filterMap Event.filter?

/-
  Whether stores are handed regular filters only, from some
  events up to later ones.
-/
def HandsRegular (before after : List (Event ι)) : Prop :=
  ∃ filters,
    handed after = handed before ++ filters ∧
    ∀ filter ∈ filters, filter.IsRegular

theorem handsRegular_of_append
    {before after events : List (Event ι)}
    (hEvents : after = before ++ events)
    (hRegular :
      ∀ event ∈ events, ∀ filter ∈ event.filter?,
        filter.IsRegular) :
    HandsRegular before after := by
  refine ⟨handed events, ?_, ?_⟩
  · rw [hEvents]
    exact List.filterMap_append
  · intro filter hFilter
    rcases List.mem_filterMap.1 hFilter with
      ⟨event, hEvent, hHanded⟩
    exact hRegular event hEvent filter hHanded

namespace Search

open Expression

variable {registry : Registry} {now : Int64}

------------------------------------------------------------
-- Scopes
------------------------------------------------------------

/- Whether a scope is made of well-formed filters. -/
structure Scope.IsSound (scope : Scope) : Prop where
  outer : ∀ filter ∈ scope.outer, filter.WellFormed
  group : ∀ filter ∈ scope.group, filter.WellFormed

namespace Scope

theorem isSound_empty : IsSound {} where
  outer := nofun
  group := nofun

namespace IsSound

variable {scope : Scope}

theorem wellFormed
    (hScope : scope.IsSound) :
    ∀ filter ∈ scope.filter, filter.WellFormed :=
  Filter.wellFormed_of_both hScope.outer hScope.group

theorem extend
    {segment : Segment}
    (hScope : scope.IsSound)
    (hSegment :
      ∀ filter ∈ segment.filter, filter.WellFormed) :
    (scope.extend segment).IsSound where
  outer := hScope.outer
  group := Filter.wellFormed_of_both hScope.group hSegment

/- Going on negates what the group has matched. -/
theorem next?
    {next : Scope}
    (hScope : scope.IsSound)
    (hNext : scope.next? = some next) :
    next.IsSound := by
  unfold Scope.next? at hNext
  split at hNext
  · cases hNext
  · rename_i group hGroup
    cases hNext
    have hNegated :
        ∀ filter ∈ some (Filter.not group),
          filter.WellFormed := by
      intro filter hFilter
      cases hFilter
      exact .not (hScope.group group hGroup)
    exact {
      outer := Filter.wellFormed_of_both hScope.outer hNegated
      group := by rintro _ ⟨⟩ }

end IsSound

/- What follows an action has a scope of the same kind. -/
theorem isSound_of_sequel
    {scope later : Scope}
    {args rest : List String}
    (hScope : scope.IsSound)
    (hSequel :
      sequel registry scope args = .more later rest) :
    later.IsSound := by
  rcases cases_of_sequel hSequel with
    ⟨_, _, _, ⟨_, hNext⟩ | ⟨_, rfl⟩ | ⟨_, rfl⟩⟩
  · exact hScope.next? hNext
  · exact hScope
  · exact hScope

end Scope

------------------------------------------------------------
-- Plans
------------------------------------------------------------

/- Every deed that is planned has a well-formed filter. -/
theorem wellFormed_of_planFrom
    (hSound : registry.Sound)
    {steps : Nat}
    {scope : Scope}
    {args : List String}
    (hScope : scope.IsSound) :
    ∀ deed ∈ (planFrom registry now steps scope args).deeds,
      ∀ filter ∈ deed.filter, filter.WellFormed := by
  induction steps generalizing scope args with
  | zero => exact List.forall_mem_nil _
  | succ steps ih =>
      unfold planFrom
      cases hRead : Segment.read registry now args with
      | error fault => exact List.forall_mem_nil _
      | ok segment =>
          have hExtended :
              (scope.extend segment).IsSound :=
            hScope.extend
              (Segment.wellFormed_of_read hSound hRead)
          dsimp only
          cases segment.action with
          | none =>
              intro deed hDeed
              dsimp only [Scope.lastDeeds] at hDeed
              split at hDeed
              · cases hDeed
              · cases List.mem_singleton.1 hDeed
                exact hExtended.wellFormed
          | some request =>
              dsimp only
              cases SearchAction.ofRequest request with
              | error fault => exact List.forall_mem_nil _
              | ok action =>
                  have hActed :
                      Scope.IsSound
                        { scope.extend segment with
                          acted := true } :=
                    ⟨hExtended.outer, hExtended.group⟩
                  dsimp only [Plan.behind]
                  refine List.forall_mem_cons.2
                    ⟨hExtended.wellFormed, ?_⟩
                  cases hSequel : sequel registry _
                      segment.rest with
                  | finished => exact List.forall_mem_nil _
                  | failed fault =>
                      exact List.forall_mem_nil _
                  | more later rest =>
                      exact ih (Scope.isSound_of_sequel
                        hActed hSequel)

theorem wellFormed_of_plan
    (hSound : registry.Sound)
    {args : List String} :
    ∀ deed ∈ (plan registry now args).deeds,
      ∀ filter ∈ deed.filter, filter.WellFormed :=
  wellFormed_of_planFrom hSound Scope.isSound_empty

------------------------------------------------------------
-- Searches
------------------------------------------------------------

variable {β κ : Type}

/- The filters of questions are those that were handed. -/
theorem handed_events
    (search : Search β) :
    handed search.events =
      search.asked.filterMap Question.filter := by
  have hEvent :
      ∀ event : Event Nat,
        event.filter? =
          event.question?.bind Question.filter := by
    intro event
    cases event with
    | called place call success => cases call <;> rfl
    | fetched entry => rfl
    | launched entry words isStarted => rfl
  unfold handed asked
  rw [List.filterMap_filterMap]
  exact congrArg (List.filterMap · search.events)
    (funext hEvent)

/-
  A search whose predicates build well-formed filters hands
  over regular filters only, whatever its arguments are.
-/
theorem handsRegular_run
    [Store β κ]
    {search : Search β}
    (hSound : (Search.registry search.stores).Sound)
    (args : List String) :
    HandsRegular search.events (run args search).2.events := by
  rcases asks_run args search with
    ⟨asked, hPrefix, hAsked, _⟩
  refine ⟨asked.filterMap Question.filter, ?_, ?_⟩
  · rw [handed_events, handed_events, hAsked,
      List.filterMap_append]
  · intro filter hFilter
    rcases List.mem_filterMap.1 hFilter with
      ⟨question, hQuestion, hHanded⟩
    rcases List.mem_flatMap.1 (hPrefix.subset hQuestion) with
      ⟨deed, hDeed, hOfDeed⟩
    rcases List.mem_map.1 hOfDeed with ⟨place, _, rfl⟩
    have hWellFormed :=
      wellFormed_of_plan hSound deed hDeed filter hHanded
    exact hWellFormed.isRegular

------------------------------------------------------------
-- Registries Of Opened Stores
------------------------------------------------------------

end Search

/- Opened stores add predicates for tiers and no others. -/
theorem Registry.Standard.registerAll_predicates
    {registry : Registry}
    (hStandard : registry.Standard)
    (store : OpenedStore) :
    (registry.registerAll
      (Store.predicates store)).Standard := by
  cases store with
  | inl directory => exact hStandard
  | inr snapshot => exact .tier hStandard

/- The predicates of a search through opened stores. -/
theorem Search.standard_registry
    (stores : List OpenedStore) :
    (Search.registry stores).Standard := by
  have hFold :
      ∀ first : Registry, first.Standard →
        (stores.foldl
          (fun registry store =>
            registry.registerAll (Store.predicates store))
          first).Standard := by
    induction stores with
    | nil => exact fun _ hFirst => hFirst
    | cons store rest ih =>
        intro first hFirst
        exact ih _ (hFirst.registerAll_predicates store)
  exact hFold .builtin .builtin

end TreeKeeper
