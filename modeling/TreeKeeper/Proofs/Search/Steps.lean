import TreeKeeper.Proofs.Store.Files
import TreeKeeper.Search.Run

/-
  The steps of searches: reading from stores, writing to the
  output or to an open file, opening and closing a file, and
  removing an entry.  Each kind of steps changes its own part
  of a search, and chains leave alone what no step of theirs
  may change.

  Key definitions include:
    * `Search.StepKind`
    * `Search.Step`
    * `Search.Steps`
    * `Search.KeepsBut`

  Main declarations:
    * `Search.keeps_of_step`
    * `Search.Steps.now_eq`
    * `Search.Steps.keepsBut`
-/

------------------------------------------------------------
-- Steps
------------------------------------------------------------

namespace TreeKeeper

namespace Search

/- What a step of an action is about. -/
inductive StepKind where
| reading
| printing
| filling
| opening
| removing
deriving DecidableEq

variable {β κ : Type}
variable [Store β κ]

/-
  The steps of actions.  A text goes to the output unless a
  file is open.
-/
inductive Step : StepKind → Search β → Search β → Prop
| query
    (search : Search β)
    (place : Nat)
    (store : β)
    (filter : Option Filter)
    (options : QueryOptions) :
    Step .reading search
      (search.query place store filter options).2
| fetch
    (search : Search β)
    (cursor : κ) :
    Step .reading search
      (search.withWorld
        (Store.fetch β cursor search.world).2.2)
| print
    {search : Search β}
    (hFile : search.file = none)
    (text : String) :
    Step .printing search (search.put text).2
| fill
    {search : Search β}
    {file : OpenFile}
    (hFile : search.file = some file)
    (text : String) :
    Step .filling search (search.put text).2
| open
    (search : Search β)
    (path : String) :
    Step .opening search (search.openFile path).2
| close
    (search : Search β) :
    Step .opening search search.closeFile
| remove
    (search : Search β)
    (place : Nat)
    (store : β)
    (entry : Entry) :
    Step .removing search
      (search.removeEntry place store entry).2

/- Chains of steps of the allowed kinds. -/
inductive Steps
    (allowed : StepKind → Prop) :
    Search β → Search β → Prop
| refl (search : Search β) : Steps allowed search search
| tail
    {first second third : Search β}
    {kind : StepKind}
    (hSteps : Steps allowed first second)
    (hAllowed : allowed kind)
    (hStep : Step kind second third) :
    Steps allowed first third

namespace Steps

variable {allowed : StepKind → Prop}
variable {first second third : Search β}

theorem single
    {kind : StepKind}
    (hAllowed : allowed kind)
    (hStep : Step kind first second) :
    Steps allowed first second :=
  .tail (.refl first) hAllowed hStep

theorem trans
    (hFirst : Steps allowed first second)
    (hSecond : Steps allowed second third) :
    Steps allowed first third := by
  induction hSecond with
  | refl => exact hFirst
  | tail _ hAllowed hStep ih =>
      exact .tail ih hAllowed hStep

theorem mono
    {others : StepKind → Prop}
    (hSteps : Steps allowed first second)
    (hKinds : ∀ kind, allowed kind → others kind) :
    Steps others first second := by
  induction hSteps with
  | refl => exact .refl _
  | tail _ hAllowed hStep ih =>
      exact .tail ih (hKinds _ hAllowed) hStep

end Steps

------------------------------------------------------------
-- What Steps Leave Alone
------------------------------------------------------------

/- Gathering changes the world and the open file only. -/
theorem gather_eq
    (search : Search β)
    (file : OpenFile)
    (text : String) :
    ∃ world later,
      search.gather file text =
        { search with world := world, file := some later } := by
  unfold gather
  dsimp only
  by_cases hFull :
      OpenFile.capacity <
        file.pending.utf8ByteSize + text.utf8ByteSize
  · rw [if_pos hFull]
    dsimp only
    split <;> exact ⟨_, _, rfl⟩
  · rw [if_neg hFull]
    dsimp only
    split <;> exact ⟨_, _, rfl⟩

theorem put_of_file
    {search : Search β}
    {file : OpenFile}
    (hFile : search.file = some file)
    (text : String) :
    ∃ world later,
      (search.put text).2 =
        { search with world := world, file := some later } := by
  unfold put
  rw [hFile]
  exact gather_eq search file text

theorem put_of_output
    {search : Search β}
    (hFile : search.file = none)
    (text : String) :
    ∃ out,
      (search.put text).2 = { search with out := out } := by
  unfold put
  rw [hFile]
  exact ⟨_, rfl⟩

theorem openFile_cases
    (search : Search β)
    (path : String) :
    (search.openFile path).2 = search ∨
    ∃ world file,
      (search.openFile path).2 =
        { search with world := world, file := some file } := by
  unfold openFile
  split
  · exact .inl rfl
  · exact .inr ⟨_, _, rfl⟩

theorem closeFile_eq
    (search : Search β) :
    ∃ world,
      search.closeFile =
        { search with world := world, file := none } := by
  unfold closeFile
  split
  · exact ⟨_, rfl⟩
  · rename_i hFile
    refine ⟨search.world, ?_⟩
    cases search
    cases hFile
    rfl

theorem removeEntry_eq
    (search : Search β)
    (place : Nat)
    (store : β)
    (entry : Entry) :
    ∃ stores world failures success,
      (search.removeEntry place store entry).2 =
        { search with
          stores := stores
          world := world
          failures := failures
          events :=
            search.events ++
              [.called place (.remove entry) success] } := by
  unfold removeEntry
  dsimp only
  split <;> exact ⟨_, _, _, _, rfl⟩

/- Whether an entry was removed, or asked to be. -/
inductive IsRemoval : Event Nat → Prop
| intro
    (place : Nat)
    (entry : Entry)
    (success : Bool) :
    IsRemoval (.called place (.remove entry) success)

/-
  What a step of a kind keeps: the reference time, and what
  only steps of other kinds change.
-/
structure Keeps
    (kind : StepKind)
    (first second : Search β) : Prop where
  now : second.now = first.now
  stores :
    kind ≠ .removing → second.stores = first.stores
  removals :
    kind ≠ .removing →
      ∀ event ∈ second.events, IsRemoval event →
        event ∈ first.events
  out : kind ≠ .printing → second.out = first.out

theorem keeps_of_step
    {kind : StepKind}
    {first second : Search β}
    (hStep : Step kind first second) :
    Keeps kind first second := by
  cases hStep with
  | query search place store filter options =>
      refine ⟨rfl, fun _ => rfl, ?_, fun _ => rfl⟩
      intro _ event hEvent hRemoval
      rcases List.mem_append.1 hEvent with hOld | hNew
      · exact hOld
      · rw [List.mem_singleton.1 hNew] at hRemoval
        exact nomatch hRemoval
  | fetch search cursor =>
      exact ⟨rfl, fun _ => rfl, fun _ _ h _ => h,
        fun _ => rfl⟩
  | print hFile text =>
      rcases put_of_output hFile text with ⟨_, hPut⟩
      rw [hPut]
      exact ⟨rfl, fun _ => rfl, fun _ _ h _ => h,
        fun h => absurd rfl h⟩
  | fill hFile text =>
      rcases put_of_file hFile text with ⟨_, _, hPut⟩
      rw [hPut]
      exact ⟨rfl, fun _ => rfl, fun _ _ h _ => h,
        fun _ => rfl⟩
  | «open» search path =>
      rcases openFile_cases first path with
        hOpen | ⟨_, _, hOpen⟩
      all_goals
        rw [hOpen]
        exact ⟨rfl, fun _ => rfl, fun _ _ h _ => h,
          fun _ => rfl⟩
  | close search =>
      rcases closeFile_eq first with ⟨_, hClose⟩
      rw [hClose]
      exact ⟨rfl, fun _ => rfl, fun _ _ h _ => h,
        fun _ => rfl⟩
  | remove search place store entry =>
      rcases removeEntry_eq first place store entry with
        ⟨_, _, _, _, hRemove⟩
      rw [hRemove]
      exact ⟨rfl, fun h => absurd rfl h,
        fun h => absurd rfl h, fun _ => rfl⟩

namespace Steps

variable {allowed : StepKind → Prop}
variable {first second : Search β}

/- No step changes the reference time. -/
theorem now_eq
    (hSteps : Steps allowed first second) :
    second.now = first.now := by
  induction hSteps with
  | refl => rfl
  | tail _ _ hStep ih =>
      exact (keeps_of_step hStep).now.trans ih

/- Only removing changes the stores. -/
theorem stores_eq
    (hRemoving : ¬ allowed .removing)
    (hSteps : Steps allowed first second) :
    second.stores = first.stores := by
  induction hSteps with
  | refl => rfl
  | tail _ hAllowed hStep ih =>
      rw [← ih]
      apply (keeps_of_step hStep).stores
      rintro rfl
      exact hRemoving hAllowed

/- Only removing leaves events of removals. -/
theorem removal_mem
    (hRemoving : ¬ allowed .removing)
    (hSteps : Steps allowed first second) :
    ∀ event ∈ second.events, IsRemoval event →
      event ∈ first.events := by
  induction hSteps with
  | refl => exact fun _ h _ => h
  | tail _ hAllowed hStep ih =>
      intro event hEvent hRemoval
      apply ih event _ hRemoval
      apply (keeps_of_step hStep).removals _ event hEvent
        hRemoval
      rintro rfl
      exact hRemoving hAllowed

/- Only printing changes the output. -/
theorem out_eq
    (hPrinting : ¬ allowed .printing)
    (hSteps : Steps allowed first second) :
    second.out = first.out := by
  induction hSteps with
  | refl => rfl
  | tail _ hAllowed hStep ih =>
      rw [← ih]
      apply (keeps_of_step hStep).out
      rintro rfl
      exact hPrinting hAllowed

end Steps

------------------------------------------------------------
-- Files
------------------------------------------------------------

theorem tree_removeEntry
    (search : Search β)
    (place : Nat)
    (store : β)
    (entry : Entry) :
    (search.removeEntry place store entry).2.world.tree =
      (Store.remove store entry search.world).2.2.tree := by
  unfold removeEntry
  dsimp only
  split <;> rfl

/-
  What a step keeps that opens no file: no file is open, and
  no object appears or changes.
-/
structure KeepsFiles
    (kind : StepKind)
    (first second : Search β) : Prop where
  file : second.file = none
  objects :
    second.world.tree.objects ⊆ first.world.tree.objects
  tree :
    kind ≠ .removing →
      second.world.tree = first.world.tree

theorem KeepsFiles.of_tree
    {kind : StepKind}
    {first second : Search β}
    (hFile : second.file = none)
    (hTree : second.world.tree = first.world.tree) :
    KeepsFiles kind first second where
  file := hFile
  objects := hTree ▸ List.Subset.refl _
  tree := fun _ => hTree

theorem keepsFiles_of_step
    (hStores : Store.CreatesNoFiles β)
    {kind : StepKind}
    {first second : Search β}
    (hKind : kind ≠ .opening)
    (hFile : first.file = none)
    (hStep : Step kind first second) :
    KeepsFiles kind first second := by
  cases hStep with
  | query search place store filter options =>
      exact .of_tree hFile (hStores.query _ _ _ _ _)
  | fetch search cursor =>
      exact .of_tree hFile (hStores.fetch _ _)
  | print hOutput text =>
      rcases put_of_output hOutput text with ⟨_, hPut⟩
      rw [hPut]
      exact .of_tree hFile rfl
  | fill hOpen text => exact nomatch hFile.symm.trans hOpen
  | «open» => exact absurd rfl hKind
  | close => exact absurd rfl hKind
  | remove search place store entry =>
      refine ⟨?_, ?_, fun hRemoving => absurd rfl hRemoving⟩
      · rcases removeEntry_eq first place store entry with
          ⟨_, _, _, _, hRemove⟩
        rw [hRemove]
        exact hFile
      · rw [tree_removeEntry]
        exact hStores.remove store entry first.world

/-
  Files appear or change only where one is opened, and they
  disappear only where an entry is removed.
-/
theorem Steps.keepsFiles
    {allowed : StepKind → Prop}
    {first second : Search β}
    (hStores : Store.CreatesNoFiles β)
    (hOpening : ¬ allowed .opening)
    (hFile : first.file = none)
    (hSteps : Steps allowed first second) :
    second.file = none ∧
      second.world.tree.objects ⊆
        first.world.tree.objects ∧
      (¬ allowed .removing →
        second.world.tree = first.world.tree) := by
  induction hSteps with
  | refl =>
      exact ⟨hFile, List.Subset.refl _, fun _ => rfl⟩
  | @tail _ _ kind _ hAllowed hStep ih =>
      rcases ih with ⟨hNone, hObjects, hTree⟩
      have hKind : kind ≠ .opening := by
        rintro rfl
        exact hOpening hAllowed
      have hKeeps :=
        keepsFiles_of_step hStores hKind hNone hStep
      refine ⟨hKeeps.file, ?_, ?_⟩
      · exact List.Subset.trans hKeeps.objects hObjects
      · intro hRemoving
        rw [hKeeps.tree, hTree hRemoving]
        rintro rfl
        exact hRemoving hAllowed

------------------------------------------------------------
-- Frames
------------------------------------------------------------

/-
  What chains of steps of the allowed kinds keep: the entries
  of all stores, what has been removed, the output, and all
  files, unless there is a kind that changes them.
-/
structure KeepsBut
    (allowed : StepKind → Prop)
    (first second : Search β) : Prop where
  stores :
    ¬ allowed .removing → second.stores = first.stores
  removals :
    ¬ allowed .removing →
      ∀ event ∈ second.events, IsRemoval event →
        event ∈ first.events
  out : ¬ allowed .printing → second.out = first.out
  objects :
    Store.CreatesNoFiles β →
      first.file = none →
        ¬ allowed .opening →
          second.world.tree.objects ⊆
            first.world.tree.objects
  tree :
    Store.CreatesNoFiles β →
      first.file = none →
        ¬ allowed .opening →
          ¬ allowed .removing →
            second.world.tree = first.world.tree

theorem Steps.keepsBut
    {allowed : StepKind → Prop}
    {first second : Search β}
    (hSteps : Steps allowed first second) :
    KeepsBut allowed first second where
  stores := fun hRemoving => hSteps.stores_eq hRemoving
  removals := fun hRemoving => hSteps.removal_mem hRemoving
  out := fun hPrinting => hSteps.out_eq hPrinting
  objects := fun hStores hFile hOpening =>
    (hSteps.keepsFiles hStores hOpening hFile).2.1
  tree := fun hStores hFile hOpening =>
    (hSteps.keepsFiles hStores hOpening hFile).2.2

end Search

end TreeKeeper
