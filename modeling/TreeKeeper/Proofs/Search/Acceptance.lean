import TreeKeeper.Proofs.Search.Misuse
import TreeKeeper.Proofs.Search.Readable

/-
  Which arguments a search accepts.  They are read while the
  search acts.  A fault in them is found whatever the stores
  hold, unless an action in front of it ends the search.

  Key definitions include:
    * `Search.Leaves`

  Main declarations:
    * `Search.cases_of_performAll`
    * `Search.run_of_unreadable`
    * `Search.run_of_readable`
    * `Search.accepted_behind_quit`
-/

------------------------------------------------------------
-- Leaving A Plan
------------------------------------------------------------

namespace TreeKeeper

namespace Search

variable {β κ : Type}
variable [Store β κ]

/- Only the action that looks for a match ends a search. -/
theorem quit_of_execute
    {filter : Option Filter}
    {sorts : List SortKey}
    {action : SearchAction}
    {search after : Search β}
    (hExecute :
      execute filter sorts action search = (.ok true, after)) :
    action = .quit := by
  have hGoOn :
      ∀ result : Option SearchFault × Search β,
        goOn result ≠ (.ok true, after) := by
    rintro ⟨_ | fault, last⟩ hEnds
    · cases hEnds
    · cases hEnds
  unfold execute at hExecute
  dsimp only at hExecute
  cases action with
  | write file rendering => exact absurd hExecute (hGoOn _)
  | count =>
      dsimp only at hExecute
      split at hExecute
      · cases hExecute
      · unfold reportCount at hExecute
        split at hExecute
        · cases hExecute
        · cases hExecute
  | delete => exact absurd hExecute (hGoOn _)
  | quit => rfl

/-
  How a search ends at one of its deeds, with those in front
  of it completed.  A search for a match that finds one ends
  without a fault, and a deed that fails ends it with its own
  fault.
-/
inductive Leaves
    (deeds : List Deed)
    (search : Search β) :
    Option SearchFault × Search β → Prop
| found
    {front back : List Deed}
    {deed : Deed}
    {between after : Search β}
    (hDeeds : deeds = front ++ deed :: back)
    (hFront : Completes front search between)
    (hAction : deed.action = .quit)
    (hFound : deed.perform between = (.ok true, after)) :
    Leaves deeds search after.finish
| failed
    {front back : List Deed}
    {deed : Deed}
    {between after : Search β}
    {fault : SearchFault}
    (hDeeds : deeds = front ++ deed :: back)
    (hFront : Completes front search between)
    (hFailed : deed.perform between = (.error fault, after))
    (hFault : ¬ fault.IsMisuse) :
    Leaves deeds search (some fault, after)

theorem Leaves.behind
    {deed : Deed}
    {rest : List Deed}
    {search between : Search β}
    {result : Option SearchFault × Search β}
    (hRest : Leaves rest between result)
    (hDeed : deed.perform search = (.ok false, between)) :
    Leaves (deed :: rest) search result := by
  cases hRest with
  | @found front back last _ _ hDeeds hFront hAction
      hFound =>
      have hAll : deed :: rest =
          (deed :: front) ++ last :: back := by
        rw [hDeeds, List.cons_append]
      exact .found hAll (.cons hDeed hFront) hAction hFound
  | @failed front back last _ _ _ hDeeds hFront hFailed
      hFault =>
      have hAll : deed :: rest =
          (deed :: front) ++ last :: back := by
        rw [hDeeds, List.cons_append]
      exact .failed hAll (.cons hDeed hFront) hFailed hFault

/- Deeds that are all completed are completed one by one. -/
theorem Completes.perform_between
    {front back : List Deed}
    {deed : Deed}
    {search between after : Search β}
    (hAll : Completes (front ++ deed :: back) search after)
    (hFront : Completes front search between) :
    ∃ later, deed.perform between = (.ok false, later) := by
  induction hFront with
  | nil =>
      cases hAll with
      | cons hDeed hRest => exact ⟨_, hDeed⟩
  | cons hFirst hOthers ih =>
      cases hAll with
      | cons hDeed hRest =>
          rw [hFirst] at hDeed
          cases hDeed
          exact ih hRest

/- A search that completes all its deeds leaves none. -/
theorem not_leaves_of_completes
    {deeds : List Deed}
    {search after : Search β}
    {result : Option SearchFault × Search β}
    (hDeeds : Completes deeds search after) :
    ¬ Leaves deeds search result := by
  intro hLeaves
  cases hLeaves with
  | found hSplit hFront hAction hFound =>
      rw [hSplit] at hDeeds
      rcases hDeeds.perform_between hFront with ⟨_, hDeed⟩
      rw [hFound] at hDeed
      cases hDeed
  | failed hSplit hFront hFailed hFault =>
      rw [hSplit] at hDeeds
      rcases hDeeds.perform_between hFront with ⟨_, hDeed⟩
      rw [hFailed] at hDeed
      cases hDeed

/-
  Deeds are all completed, and the fault behind them is
  reached, or the search ends at one of them.
-/
theorem cases_of_performAll
    (last : Option SearchFault)
    (deeds : List Deed)
    (search : Search β) :
    (∃ after,
      Completes deeds search after ∧
      performAll last deeds search = (last, after)) ∨
    Leaves deeds search
      (match performAll last deeds search with
      | (some fault, after) => (some fault, after)
      | (none, after) => after.finish) := by
  induction deeds generalizing search with
  | nil => exact .inl ⟨search, .nil search, rfl⟩
  | cons deed rest ih =>
      unfold performAll
      cases hDeed : deed.perform search with
      | mk ending between =>
          cases ending with
          | error fault =>
              have hFault := not_isMisuse_of_execute hDeed
              exact .inr
                (.failed rfl (.nil search) hDeed hFault)
          | ok ends =>
              cases ends with
              | true =>
                  have hAction := quit_of_execute hDeed
                  exact .inr
                    (.found rfl (.nil search) hAction hDeed)
              | false =>
                  rcases ih between with
                    ⟨after, hRest, hPerform⟩ | hLeaves
                  · exact .inl
                      ⟨after, .cons hDeed hRest, hPerform⟩
                  · exact .inr (hLeaves.behind hDeed)

------------------------------------------------------------
-- Faults In Expressions
------------------------------------------------------------

/-
  Arguments that are not readable have a fault, the same one
  for all stores with the same predicates.  It is the result
  of every search that completes the actions in front of it.
-/
theorem run_of_unreadable
    {known : Registry}
    {now : Int64}
    {args : List String}
    (hArgs : ¬ Readable known now false args) :
    ∃ fault,
      (plan known now args).fault =
        some (.expression fault) ∧
      ∀ {β κ : Type} [Store β κ] (search : Search β),
        registry search.stores = known →
        search.now = now →
        (∃ after,
          Completes (plan known now args).deeds search
            after ∧
          run args search =
            (some (.expression fault), after)) ∨
        Leaves (plan known now args).deeds search
          (run args search) := by
  have hFaulty : (plan known now args).IsFaulty := by
    by_contra hSound
    exact hArgs (readable_of_not_isFaulty hSound)
  rcases hFaulty with ⟨fault, hFault⟩
  refine ⟨fault, hFault, ?_⟩
  intro β κ _ search hRegistry hNow
  have hCases :=
    cases_of_performAll (plan known now args).fault
      (plan known now args).deeds search
  rw [run_eq_perform, hRegistry, hNow]
  unfold Plan.perform
  rcases hCases with ⟨after, hDeeds, hPerform⟩ | hLeaves
  · rw [hPerform, hFault]
    exact .inl ⟨after, hDeeds, rfl⟩
  · exact .inr hLeaves

/- No search finds a fault in arguments that are readable. -/
theorem run_of_readable
    {args : List String}
    {search : Search β}
    (hArgs :
      Readable (registry search.stores) search.now false args)
    (fault : ExpressionFault)
    (after : Search β) :
    run args search ≠ (some (.expression fault), after) := by
  intro hRun
  have hMisuse := SearchFault.IsMisuse.expression fault
  rcases (run_eq_misuse_iff hMisuse).1 hRun with
    ⟨hFault, _⟩
  have hSound :
      ¬ (planIn (registry search.stores) search.now {}
        args).IsFaulty :=
    hArgs.not_isFaulty
  exact hSound ⟨fault, hFault⟩

/- A search through a snapshot without entries. -/
def noFiles : Search Snapshot :=
  { oneFile with stores := [{ entries := [] }] }

/- A typing error is found with and without entries. -/
theorem run_of_unreadable_behind_count :
    ∃ fault,
      (run ["-count", "-bogus"] oneFile).1 =
        some (.expression fault) ∧
      (run ["-count", "-bogus"] noFiles).1 =
        some (.expression fault) := by
  let known := registry oneFile.stores
  have hArgs :
      ¬ Readable known 0 false ["-count", "-bogus"] := by
    intro hReadable
    have hSound :
        ¬ (planIn known 0 {} ["-count", "-bogus"]).IsFaulty :=
      hReadable.not_isFaulty
    exact hSound ⟨.unknownAction "-bogus", by rfl⟩
  rcases run_of_unreadable hArgs with ⟨fault, _, hRun⟩
  refine ⟨fault, ?_, ?_⟩
  · rcases hRun oneFile rfl rfl with
      ⟨after, _, hAfter⟩ | hLeaves
    · rw [hAfter]
    · have hCount :
          Completes [⟨none, [], .count⟩] oneFile _ :=
        .cons rfl (.nil _)
      exact absurd hLeaves (not_leaves_of_completes hCount)
  · rcases hRun noFiles rfl rfl with
      ⟨after, _, hAfter⟩ | hLeaves
    · rw [hAfter]
    · have hCount :
          Completes [⟨none, [], .count⟩] noFiles _ :=
        .cons rfl (.nil _)
      exact absurd hLeaves (not_leaves_of_completes hCount)

/-
  A typing error is overlooked if the search for a match in
  front of it finds one, although no command has such words.
  It is also overlooked behind a disjunction that leaves no
  entries, and behind an action that is not there yet.
-/
theorem accepted_behind_quit :
    (¬ ∃ groups,
      Command (registry oneFile.stores) oneFile.now
        ["-quit", "-bogus"] groups) ∧
    (run ["-quit", "-bogus"] oneFile).1 = none ∧
    (run ["-quit", "-bogus"] noFiles).1 =
      some (.expression (.unknownAction "-bogus")) ∧
    (run ["-print", "-o", "-bogus"] oneFile).1 = none ∧
    (run ["-exec", "ls", ";", "-bogus"] oneFile).1 =
      some (.reserved "-exec") := by
  refine ⟨?_, by decide +kernel, by rfl, by decide +kernel,
    by rfl⟩
  rintro ⟨groups, hCommand⟩
  rcases plan_of_command hCommand with ⟨deeds, hPlan, _⟩
  have hFault := congrArg Plan.fault hPlan
  exact nomatch hFault

end Search

end TreeKeeper
