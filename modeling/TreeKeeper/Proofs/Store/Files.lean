import TreeKeeper.Proofs.Store.Logging
import TreeKeeper.Store.Opened

/-
  What stores do to files.  A query and its answers may add
  to the log, but they leave all files as they are.  Removing
  an entry may remove a file, and creates none.

  Key definitions include:
    * `Source.KeepsFiles`
    * `Store.KeepsFiles`
    * `Store.CreatesNoFiles`

  Main declarations:
    * `Results.sameFiles_start`
    * `Results.sameFiles_fetch`
    * `DirectoryStore.objects_remove`
    * `OpenedStore.createsNoFiles`
    * `OpenedStore.sameFiles_query`
    * `OpenedStore.sameFiles_fetch`
-/

------------------------------------------------------------
-- Sources
------------------------------------------------------------

namespace TreeKeeper

/- Whether the steps of sources of a type keep all files. -/
def Source.KeepsFiles
    (σ : Type)
    [Source σ] : Prop :=
  ∀ (source : σ) world,
    (Source.next source world).2.2.SameFiles world

theorem Readings.keepsFiles : Source.KeepsFiles Readings := by
  intro readings world
  cases readings <;> exact .refl world

namespace Walk

theorem sameFiles_inspect
    (directory : String)
    (children : List (String × FileObject))
    (world : World) :
    (inspect directory children world).2.SameFiles world := by
  induction children generalizing world with
  | nil => exact .refl world
  | cons child rest ih =>
      unfold inspect
      dsimp only
      split
      · exact (ih _).trans ⟨rfl, rfl⟩
      · exact ih world

theorem sameFiles_list
    (walk : Walk)
    (directory : String)
    (world : World) :
    (walk.list directory world).2.SameFiles world := by
  unfold list
  split
  · exact ⟨rfl, rfl⟩
  · exact sameFiles_inspect directory _ world

theorem sameFiles_advance
    (steps : Nat)
    (walk : Walk)
    (world : World) :
    (advance steps walk world).2.2.SameFiles world := by
  induction steps generalizing walk world with
  | zero =>
      unfold advance
      split <;> exact .refl world
  | succ steps ih =>
      unfold advance
      split
      · exact .refl world
      · exact .refl world
      · exact (ih _ _).trans (sameFiles_list _ _ world)

theorem keepsFiles : Source.KeepsFiles Walk := by
  intro walk world
  exact sameFiles_advance _ walk world

end Walk

------------------------------------------------------------
-- Results
------------------------------------------------------------

section Results

variable {σ : Type}
variable [Source σ]

theorem Feed.sameFiles_next
    (hSource : Source.KeepsFiles σ)
    (feed : Feed σ)
    (world : World) :
    (feed.next world).2.2.SameFiles world := by
  cases feed with
  | drawn source => exact hSource source world
  | sorted readings => exact Readings.keepsFiles readings world

namespace Results

theorem sameFiles_warnSkipped
    {fault : StoreFault}
    {world after : World}
    (hWorld : after.SameFiles world) :
    (warnSkipped fault after).SameFiles world :=
  ⟨hWorld.tree, hWorld.directory⟩

theorem sameFiles_collect
    (hSource : Source.KeepsFiles σ)
    (filter : Option Filter)
    (skipErrors : Bool)
    (steps : Nat)
    (source : σ)
    (world : World) :
    (collect filter skipErrors steps source
      world).2.2.SameFiles world := by
  induction steps generalizing source world with
  | zero => exact .refl world
  | succ steps ih =>
      have hNext := hSource source world
      unfold collect
      generalize Source.next source world = step at hNext ⊢
      rcases step with ⟨reading, later, after⟩
      rcases reading with _ | fault | entry
      · exact hNext
      · dsimp only
        by_cases hSkip : skipErrors
        · rw [if_pos hSkip]
          exact (ih _ _).trans (sameFiles_warnSkipped hNext)
        · rw [if_neg hSkip]
          exact hNext
      · dsimp only
        split
        all_goals exact (ih _ _).trans hNext

theorem sameFiles_start
    (hSource : Source.KeepsFiles σ)
    (source : σ)
    (filter : Option Filter)
    (options : QueryOptions)
    (projection : Projection)
    (world : World) :
    (start source filter options projection
      world).2.SameFiles world := by
  unfold start
  dsimp only
  split
  · exact .refl world
  · exact sameFiles_collect hSource filter _ _ source world

theorem sameFiles_advance
    (hSource : Source.KeepsFiles σ)
    (steps : Nat)
    (results : Results σ)
    (world : World) :
    (advance steps results world).2.2.SameFiles world := by
  induction steps generalizing results world with
  | zero => exact .refl world
  | succ steps ih =>
      have hNext := results.feed.sameFiles_next hSource world
      unfold advance
      generalize results.feed.next world = step at hNext ⊢
      rcases step with ⟨reading, later, after⟩
      rcases reading with _ | fault | entry
      · exact hNext
      · dsimp only
        by_cases hSkip : results.skipErrors
        · rw [if_pos hSkip]
          exact (ih _ _).trans (sameFiles_warnSkipped hNext)
        · rw [if_neg hSkip]
          exact hNext
      · dsimp only
        split
        · exact (ih _ _).trans hNext
        · split
          · exact (ih _ _).trans hNext
          · exact hNext

theorem sameFiles_fetch
    (hSource : Source.KeepsFiles σ)
    (results : Results σ)
    (world : World) :
    (results.fetch world).2.2.SameFiles world := by
  unfold fetch
  split
  · exact .refl world
  · exact sameFiles_advance hSource _ results world

end Results

end Results

------------------------------------------------------------
-- Removing Objects
------------------------------------------------------------

namespace FileTree

theorem objects_erase?
    {tree later : FileTree}
    {location : Location}
    (hErase : tree.erase? location = some later) :
    later.objects ⊆ tree.objects := by
  unfold erase? at hErase
  split at hErase
  · cases hErase
    intro object hObject
    exact (List.mem_filter.1 hObject).1
  · exact nomatch hErase

theorem objects_removeFile
    {tree later : FileTree}
    {directory : Location}
    {path : String}
    (hRemove : tree.removeFile directory path = .ok later) :
    later.objects ⊆ tree.objects := by
  unfold removeFile at hRemove
  split at hRemove
  · exact nomatch hRemove
  · exact nomatch hRemove
  · split at hRemove
    · rename_i hErase
      cases hRemove
      exact objects_erase? hErase
    · exact nomatch hRemove

theorem objects_removeDirectory
    {tree later : FileTree}
    {directory : Location}
    {path : String}
    (hRemove :
      tree.removeDirectory directory path = .ok later) :
    later.objects ⊆ tree.objects := by
  unfold removeDirectory at hRemove
  split at hRemove
  · exact nomatch hRemove
  · split at hRemove
    · exact nomatch hRemove
    · split at hRemove
      · rename_i hErase
        cases hRemove
        exact objects_erase? hErase
      · exact nomatch hRemove
  · exact nomatch hRemove

end FileTree

namespace DirectoryStore

theorem objects_removeObject
    {object : FileObject}
    {path : String}
    {world : World}
    {later : FileTree}
    (hRemove : removeObject object path world = .ok later) :
    later.objects ⊆ world.tree.objects := by
  unfold removeObject at hRemove
  by_cases hDirectory : object.isDirectory = true
  · rw [if_pos hDirectory] at hRemove
    exact FileTree.objects_removeDirectory hRemove
  · rw [if_neg hDirectory] at hRemove
    exact FileTree.objects_removeFile hRemove

/- Whatever is there behind a removal was there before. -/
theorem objects_remove
    (store : DirectoryStore)
    (entry : Entry)
    (world : World) :
    (store.remove entry world).2.tree.objects ⊆
      world.tree.objects := by
  have hSame : world.tree.objects ⊆ world.tree.objects :=
    List.Subset.refl _
  unfold remove
  split
  · exact hSame
  · split
    · exact hSame
    · split
      · exact hSame
      · exact hSame
      · split
        · rename_i hRemove
          exact objects_removeObject hRemove
        · exact hSame
        · exact hSame

end DirectoryStore

------------------------------------------------------------
-- Stores
------------------------------------------------------------

/-
  Whether stores of a type leave all files as they are when
  they are asked for entries and answer.
-/
structure Store.KeepsFiles
    (β : Type)
    {κ : Type}
    [Store β κ] : Prop where
  query :
    ∀ (store : β) filter options projection world,
      (Store.query store filter options projection
        world).2.SameFiles world
  fetch :
    ∀ (cursor : κ) world,
      (Store.fetch β cursor world).2.2.SameFiles world

/-
  Whether stores of a type create no files when they are
  asked for entries, answer, and remove entries.
-/
structure Store.CreatesNoFiles
    (β : Type)
    {κ : Type}
    [Store β κ] : Prop where
  query :
    ∀ (store : β) filter options projection world,
      (Store.query store filter options projection
        world).2.tree = world.tree
  fetch :
    ∀ (cursor : κ) world,
      (Store.fetch β cursor world).2.2.tree = world.tree
  remove :
    ∀ (store : β) entry world,
      (Store.remove store entry world).2.2.tree.objects ⊆
        world.tree.objects

theorem Snapshot.createsNoFiles :
    Store.CreatesNoFiles Snapshot where
  query := fun snapshot _ _ _ world =>
    (Results.sameFiles_start Readings.keepsFiles
      snapshot.readings _ _ _ world).tree
  fetch := fun cursor world =>
    (Results.sameFiles_fetch Readings.keepsFiles cursor
      world).tree
  remove := fun _ _ _ => List.Subset.refl _

theorem DirectoryStore.sameFiles_query
    (store : DirectoryStore)
    (filter : Option Filter)
    (options : QueryOptions)
    (projection : Projection)
    (world : World) :
    (store.query filter options projection
      world).2.SameFiles world := by
  unfold query
  split
  · exact .refl world
  · exact Results.sameFiles_start Walk.keepsFiles _ _ _ _
      world

theorem DirectoryStore.createsNoFiles :
    Store.CreatesNoFiles DirectoryStore where
  query := fun store _ _ _ world =>
    (store.sameFiles_query _ _ _ world).tree
  fetch := fun cursor world =>
    (Results.sameFiles_fetch Walk.keepsFiles cursor world).tree
  remove := DirectoryStore.objects_remove

/- Stores of two types create no files if none of them do. -/
theorem Store.CreatesNoFiles.sum
    {β γ κ μ : Type}
    [Store β κ]
    [Store γ μ]
    (hFirst : CreatesNoFiles β)
    (hSecond : CreatesNoFiles γ) :
    CreatesNoFiles (β ⊕ γ) := by
  constructor
  · intro store filter options projection world
    cases store with
    | inl store =>
        exact hFirst.query store filter options projection
          world
    | inr store =>
        exact hSecond.query store filter options projection
          world
  · intro cursor world
    cases cursor with
    | inl cursor => exact hFirst.fetch cursor world
    | inr cursor => exact hSecond.fetch cursor world
  · intro store entry world
    cases store with
    | inl store => exact hFirst.remove store entry world
    | inr store => exact hSecond.remove store entry world

namespace OpenedStore

theorem createsNoFiles : Store.CreatesNoFiles OpenedStore :=
  DirectoryStore.createsNoFiles.sum Snapshot.createsNoFiles

/- A query of an opened store keeps all files. -/
theorem sameFiles_query
    (store : OpenedStore)
    (filter : Option Filter)
    (options : QueryOptions)
    (projection : Projection)
    (world : World) :
    (Store.query store filter options projection
      world).2.SameFiles world := by
  cases store with
  | inl store =>
      exact store.sameFiles_query filter options projection
        world
  | inr snapshot =>
      exact Results.sameFiles_start Readings.keepsFiles
        snapshot.readings _ _ _ world

/- So does each of its answers. -/
theorem sameFiles_fetch
    (cursor : Results Walk ⊕ Results Readings)
    (world : World) :
    (Store.fetch OpenedStore cursor
      world).2.2.SameFiles world := by
  cases cursor with
  | inl results =>
      exact Results.sameFiles_fetch Walk.keepsFiles results
        world
  | inr results =>
      exact Results.sameFiles_fetch Readings.keepsFiles
        results world

theorem keepsFiles : Store.KeepsFiles OpenedStore where
  query := sameFiles_query
  fetch := sameFiles_fetch

end OpenedStore

end TreeKeeper
