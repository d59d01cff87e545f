import TreeKeeper.Proofs.Search.Plan

/-
  Searches that are asked for in a wrong way.  Arguments are
  read while the actions in front of them are executed, and a
  mistake behind an action comes too late for that action.
  Nothing else is touched.

  Key definitions include:
    * `Search.Plan.Takes`

  Main declarations:
    * `Search.run_of_misuse`
    * `Search.entries_removed_before_misuse`
-/

------------------------------------------------------------
-- What A Mistake Leaves Alone
------------------------------------------------------------

namespace TreeKeeper

namespace Search

/- The kinds of steps that the deeds of a plan take. -/
def Plan.Takes
    (plan : Plan)
    (kind : StepKind) : Prop :=
  ∃ deed ∈ plan.deeds, deed.action.Takes kind

variable {β κ : Type}
variable [Store β κ]

/-
  A search ends in a misuse exactly behind the deeds that were
  planned in front of it, with each of them completed.  Only
  these removed entries, wrote to the output or opened files,
  and without any of them the search is as it was.
-/
theorem run_of_misuse
    {args : List String}
    {search after : Search β}
    {fault : SearchFault}
    (hMisuse : fault.IsMisuse) :
    let planned :=
      plan (registry search.stores) search.now args
    (run args search = (some fault, after) ↔
      planned.fault = some fault ∧
        Completes planned.deeds search after) ∧
    (run args search = (some fault, after) →
      KeepsBut planned.Takes search after ∧
        (planned.deeds = [] → after = search)) := by
  refine ⟨run_eq_misuse_iff hMisuse, ?_⟩
  intro hRun
  rcases (run_eq_misuse_iff hMisuse).1 hRun with
    ⟨_, hDeeds⟩
  refine ⟨(steps_of_completes hDeeds).keepsBut, ?_⟩
  intro hNone
  rw [hNone] at hDeeds
  cases hDeeds
  rfl

/- A search through a snapshot of one small file. -/
def oneFile : Search Snapshot where
  stores := [{ entries := [.ofPath "/a.tmp" { size := 2048 }] }]
  out := {}
  world := {}
  now := 0

/- A deletion behind a typing error is not executed. -/
theorem run_of_misuse_before_delete :
    (run ["-count", "-bogus", "-delete"] oneFile).1 =
        some (.expression (.unknownAction "-bogus")) ∧
      (run ["-count", "-bogus", "-delete"] oneFile).2.stores =
        oneFile.stores := by
  have hRun :
      (run ["-count", "-bogus", "-delete"] oneFile).1 =
        some (.expression (.unknownAction "-bogus")) := by
    rfl
  have hPlan :
      plan (registry oneFile.stores) oneFile.now
          ["-count", "-bogus", "-delete"] =
        { deeds := [⟨none, [], .count⟩]
          fault :=
            some (.expression (.unknownAction "-bogus")) } := by
    rfl
  have hMisuse :=
    SearchFault.IsMisuse.expression (.unknownAction "-bogus")
  rcases (run_of_misuse hMisuse).2 (Prod.ext hRun rfl) with
    ⟨hKeeps, _⟩
  refine ⟨hRun, hKeeps.stores ?_⟩
  rw [hPlan]
  rintro ⟨deed, hDeed, hTakes⟩
  rw [List.mem_singleton.1 hDeed] at hTakes
  exact hTakes

/-
  A typing error behind a deletion comes too late, although
  the search ends in a misuse.
-/
theorem entries_removed_before_misuse :
    (run ["-delete", "-bogus"] oneFile).1 =
        some (.expression (.unknownAction "-bogus")) ∧
      oneFile.stores.map Snapshot.entries =
        [[.ofPath "/a.tmp" { size := 2048 }]] ∧
      (run ["-delete", "-bogus"] oneFile).2.stores.map
        Snapshot.entries = [[]] :=
  ⟨by rfl, by rfl, by decide +kernel⟩

end Search

end TreeKeeper
