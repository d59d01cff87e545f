import TreeKeeper.Program.Basic
import TreeKeeper.Store.Opened
import TreeKeeper.Store.Script

/-
  The log is written and never read.  What stores answer, and
  what they do to themselves and to files, is the same in two
  worlds that differ in nothing but their logs.

  Key definitions include:
    * `World.SameFiles`
    * `Store.SameAnswer`
    * `Store.IgnoresLog`
    * `Launcher.IgnoresLog`
-/

------------------------------------------------------------
-- Worlds
------------------------------------------------------------

namespace TreeKeeper

/- Whether two worlds differ in their logs at most. -/
structure World.SameFiles (first second : World) : Prop where
  tree : first.tree = second.tree
  directory : first.directory = second.directory

namespace World.SameFiles

theorem refl (world : World) : world.SameFiles world :=
  ⟨rfl, rfl⟩

theorem trans
    {first second third : World}
    (hFirst : first.SameFiles second)
    (hSecond : second.SameFiles third) :
    first.SameFiles third :=
  ⟨hFirst.tree.trans hSecond.tree,
    hFirst.directory.trans hSecond.directory⟩

theorem symm
    {first second : World}
    (hWorld : first.SameFiles second) :
    second.SameFiles first :=
  ⟨hWorld.tree.symm, hWorld.directory.symm⟩

theorem note
    {first second : World}
    (hWorld : first.SameFiles second)
    (level other : LogLevel)
    (text more : String) :
    (first.note level text).SameFiles
      (second.note other more) :=
  ⟨hWorld.tree, hWorld.directory⟩

/- Of two such worlds, one is the other with another log. -/
theorem exists_eq
    {first second : World}
    (hWorld : first.SameFiles second) :
    ∃ log, second = { first with log := log } := by
  rcases first with ⟨tree, directory, log⟩
  rcases second with ⟨tree', directory', log'⟩
  rcases hWorld with ⟨rfl, rfl⟩
  exact ⟨log', rfl⟩

end World.SameFiles

/-
  Whether a program ends the same and leaves the same files,
  whatever was logged.
-/
def Launcher.IgnoresLog (launch : Launcher) : Prop :=
  ∀ {first second : World} (words : List String),
    first.SameFiles second →
      (launch first words).1 = (launch second words).1 ∧
        (launch first words).2.SameFiles
          (launch second words).2

theorem Launcher.IgnoresLog.start
    {launch : Launcher}
    (hLaunch : launch.IgnoresLog)
    {first second : World}
    (words : List String)
    (hWorld : first.SameFiles second) :
    (launch.start first words).1 =
        (launch.start second words).1 ∧
      (launch.start first words).2.SameFiles
        (launch.start second words).2 := by
  unfold Launcher.start
  split
  · exact ⟨rfl, hWorld⟩
  · exact hLaunch words hWorld

------------------------------------------------------------
-- Stores
------------------------------------------------------------

namespace Store

/-
  Whether two operations give the same answer and leave the
  same store and the same files.
-/
inductive SameAnswer
    {β : Type} :
    Except StoreFault Unit × β × World →
      Except StoreFault Unit × β × World → Prop
| intro
    {first second : World}
    (result : Except StoreFault Unit)
    (store : β)
    (hWorld : first.SameFiles second) :
    SameAnswer (result, store, first) (result, store, second)

theorem SameAnswer.store
    {β : Type}
    {first second : Except StoreFault Unit × β × World}
    (hSame : SameAnswer first second) :
    first.2.1 = second.2.1 := by
  cases hSame with
  | intro result store hWorld => rfl

theorem SameAnswer.files
    {β : Type}
    {first second : Except StoreFault Unit × β × World}
    (hSame : SameAnswer first second) :
    first.2.2.SameFiles second.2.2 := by
  cases hSame with
  | intro result store hWorld => exact hWorld

/- Whether the stores of a type never read the log. -/
class IgnoresLog
    (β : Type)
    {κ : outParam Type}
    [Store β κ] : Prop where
  fresh :
    ∀ (store : β) (entry : Entry) {first second : World},
      first.SameFiles second →
        Store.fresh store entry first =
          Store.fresh store entry second
  remove :
    ∀ (store : β) (entry : Entry) {first second : World},
      first.SameFiles second →
        SameAnswer (Store.remove store entry first)
          (Store.remove store entry second)
  migrate :
    ∀ (store : β) (entry : Entry)
      (parameters : Dictionary String)
      {first second : World},
      first.SameFiles second →
        SameAnswer
          (Store.migrate store entry parameters first)
          (Store.migrate store entry parameters second)
  flush :
    ∀ (store : β) {first second : World},
      first.SameFiles second →
        SameAnswer (Store.flush store first)
          (Store.flush store second)

theorem SameAnswer.mapStore
    {α β : Type}
    {first second : Except StoreFault Unit × α × World}
    (hSame : SameAnswer first second)
    (f : α → β) :
    SameAnswer (TreeKeeper.mapStore f first)
      (TreeKeeper.mapStore f second) := by
  cases hSame with
  | intro result store hWorld =>
      exact .intro result (f store) hWorld

/- Stores of two types ignore the log if each kind does. -/
instance
    {β γ κ μ : Type}
    [Store β κ]
    [Store γ μ]
    [IgnoresLog β]
    [IgnoresLog γ] : IgnoresLog (β ⊕ γ) where
  fresh := fun store entry _ _ hWorld =>
    match store with
    | .inl s => IgnoresLog.fresh s entry hWorld
    | .inr s => IgnoresLog.fresh s entry hWorld
  remove := fun store entry _ _ hWorld =>
    match store with
    | .inl s => (IgnoresLog.remove s entry hWorld).mapStore _
    | .inr s => (IgnoresLog.remove s entry hWorld).mapStore _
  migrate := fun store entry parameters _ _ hWorld =>
    match store with
    | .inl s =>
        (IgnoresLog.migrate s entry parameters
          hWorld).mapStore _
    | .inr s =>
        (IgnoresLog.migrate s entry parameters
          hWorld).mapStore _
  flush := fun store _ _ hWorld =>
    match store with
    | .inl s => (IgnoresLog.flush s hWorld).mapStore _
    | .inr s => (IgnoresLog.flush s hWorld).mapStore _

/- Scripted stores do not look at the world at all. -/
instance : IgnoresLog Script where
  fresh := fun _ _ _ _ _ => rfl
  remove := fun _ _ _ _ hWorld => .intro _ _ hWorld
  migrate := fun _ _ _ _ _ hWorld => .intro _ _ hWorld
  flush := fun _ _ _ hWorld => .intro _ _ hWorld

end Store

------------------------------------------------------------
-- Snapshots
------------------------------------------------------------

theorem Snapshot.sameAnswer_flush
    (snapshot : Snapshot)
    {first second : World}
    (hWorld : first.SameFiles second) :
    Store.SameAnswer (snapshot.flush first)
      (snapshot.flush second) := by
  rcases hWorld.exists_eq with ⟨log, rfl⟩
  unfold flush
  cases snapshot.path with
  | none => exact .intro _ _ hWorld
  | some path =>
      by_cases hChanged : snapshot.isChanged = true
      · simp only [if_pos hChanged]
        unfold save World.info World.note
        cases first.tree.createFile first.directory path with
        | error fault => exact .intro _ _ ⟨rfl, rfl⟩
        | ok created => exact .intro _ _ ⟨rfl, rfl⟩
      · simp only [if_neg hChanged]
        exact .intro _ _ hWorld

instance : Store.IgnoresLog Snapshot where
  fresh := fun _ _ _ _ _ => rfl
  remove := fun _ _ _ _ hWorld => .intro _ _ hWorld
  migrate := fun store entry parameters _ _ hWorld => by
    dsimp only [Store.migrate]
    cases store.migrate entry.path parameters with
    | error fault => exact .intro _ _ hWorld
    | ok later => exact .intro _ _ hWorld
  flush := fun store _ _ hWorld =>
    store.sameAnswer_flush hWorld

------------------------------------------------------------
-- Directories
------------------------------------------------------------

namespace DirectoryStore

theorem sameAnswer_remove
    (store : DirectoryStore)
    (entry : Entry)
    {first second : World}
    (hWorld : first.SameFiles second) :
    Store.SameAnswer (Store.remove store entry first)
      (Store.remove store entry second) := by
  rcases hWorld.exists_eq with ⟨log, rfl⟩
  dsimp only [Store.remove]
  unfold remove look?
  cases store.resolve entry with
  | error fault => exact .intro _ _ hWorld
  | ok path =>
      by_cases hRoot : path = store.root
      · simp only [if_pos hRoot]
        exact .intro _ _ hWorld
      · simp only [if_neg hRoot]
        cases first.tree.look first.directory path with
        | error fault =>
            cases fault <;> exact .intro _ _ hWorld
        | ok object =>
            have hRemoved :
                removeObject object path
                    { first with log := log } =
                  removeObject object path first := rfl
            dsimp only
            rw [hRemoved]
            cases removeObject object path first with
            | ok tree => exact .intro _ _ ⟨rfl, rfl⟩
            | error fault =>
                cases fault <;> exact .intro _ _ hWorld

end DirectoryStore

instance : Store.IgnoresLog DirectoryStore where
  fresh := fun store entry first second hWorld => by
    rcases hWorld.exists_eq with ⟨log, rfl⟩
    rfl
  remove := fun store entry _ _ hWorld =>
    store.sameAnswer_remove entry hWorld
  migrate := fun _ _ _ _ _ hWorld => .intro _ _ hWorld
  flush := fun _ _ _ hWorld => .intro _ _ hWorld

end TreeKeeper
