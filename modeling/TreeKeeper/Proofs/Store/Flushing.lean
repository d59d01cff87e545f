import TreeKeeper.Proofs.Outcome
import TreeKeeper.Store.Event
import TreeKeeper.Store.Opened

/-
  What flushing does to stores.  A snapshot keeps its entries
  and its file, and nothing at all happens unless it holds
  changes that its file lacks.  Directories are always up to
  date.

  Key definitions include:
    * `Event.IsFlush`
    * `Snapshot.IsUnsaved`
    * `OpenedStore.IsUnsaved`
    * `OpenedStore.Alike`

  Main declarations:
    * `OpenedStore.alike_flush`
    * `OpenedStore.flush_of_saved`
    * `Uri.not_isUnsaved_of_open`
-/

------------------------------------------------------------
-- Flush Calls
------------------------------------------------------------

namespace TreeKeeper

/- The events of flushing a store. -/
inductive Event.IsFlush {ι : Type} : Event ι → Prop
| intro
    (place : ι)
    (success : Bool) :
    IsFlush (.called place .flush success)

instance
    {ι : Type}
    (event : Event ι) :
    Decidable event.IsFlush :=
  match event with
  | .called place .flush success => .isTrue ⟨place, success⟩
  | .called _ (.query _ _) _ => .isFalse nofun
  | .called _ (.fresh _ _) _ => .isFalse nofun
  | .called _ (.remove _) _ => .isFalse nofun
  | .called _ (.migrate _ _) _ => .isFalse nofun
  | .fetched _ => .isFalse nofun
  | .launched _ _ _ => .isFalse nofun

------------------------------------------------------------
-- Snapshots
------------------------------------------------------------

namespace Snapshot

/- Whether a snapshot has changes that its file lacks. -/
def IsUnsaved (snapshot : Snapshot) : Prop :=
  snapshot.isChanged = true ∧ snapshot.path ≠ none

theorem not_isUnsaved_of_unchanged
    {snapshot : Snapshot}
    (hUnchanged : snapshot.isChanged = false) :
    ¬ snapshot.IsUnsaved := by
  rintro ⟨hUnsaved, _⟩
  exact nomatch hUnchanged.symm.trans hUnsaved

/- A snapshot that was just loaded is like its file. -/
theorem not_isUnsaved_of_load
    {path : String}
    {world : World}
    {snapshot : Snapshot}
    (hLoad : load path world = .ok snapshot) :
    ¬ snapshot.IsUnsaved := by
  unfold load at hLoad
  split at hLoad
  · exact nomatch hLoad
  · split at hLoad
    · exact nomatch hLoad
    · cases hLoad
      exact not_isUnsaved_of_unchanged rfl

/- Flushing changes nothing but the mark of changes. -/
theorem flush_keeps
    (snapshot : Snapshot)
    (world : World) :
    ∃ isChanged,
      (snapshot.flush world).2.1 =
        { snapshot with isChanged := isChanged } := by
  unfold flush
  split
  · exact ⟨snapshot.isChanged, rfl⟩
  · split
    · split
      · exact ⟨false, rfl⟩
      · exact ⟨snapshot.isChanged, rfl⟩
    · exact ⟨snapshot.isChanged, rfl⟩

theorem flush_of_saved
    {snapshot : Snapshot}
    (hSaved : ¬ snapshot.IsUnsaved)
    (world : World) :
    snapshot.flush world = (.ok (), snapshot, world) := by
  unfold flush
  split
  · rfl
  · rename_i path hPath
    have hUnchanged : ¬ snapshot.isChanged = true := by
      intro hChanged
      apply hSaved
      refine ⟨hChanged, ?_⟩
      rw [hPath]
      exact nofun
    rw [if_neg hUnchanged]

end Snapshot

------------------------------------------------------------
-- Opened Stores
------------------------------------------------------------

namespace OpenedStore

/- Whether a store has changes that its file lacks. -/
def IsUnsaved : OpenedStore → Prop
| .inl _ => False
| .inr snapshot => snapshot.IsUnsaved

/- Whether two stores have the same place and entries. -/
def Alike : OpenedStore → OpenedStore → Prop
| .inl first, .inl second => first = second
| .inr first, .inr second =>
    first.path = second.path ∧ first.entries = second.entries
| _, _ => False

theorem alike_flush
    (store : OpenedStore)
    (world : World) :
    Alike store (Store.flush store world).2.1 := by
  cases store with
  | inl store => exact rfl
  | inr snapshot =>
      rcases snapshot.flush_keeps world with
        ⟨isChanged, hFlush⟩
      have hStore :
          (Store.flush (Sum.inr snapshot : OpenedStore)
            world).2.1 =
              .inr { snapshot with isChanged := isChanged } :=
        congrArg Sum.inr hFlush
      rw [hStore]
      exact ⟨rfl, rfl⟩

theorem flush_of_saved
    {store : OpenedStore}
    (hSaved : ¬ store.IsUnsaved)
    (world : World) :
    Store.flush store world = (.ok (), store, world) := by
  cases store with
  | inl store => rfl
  | inr snapshot =>
      have hFlush := snapshot.flush_of_saved hSaved world
      exact congrArg (mapStore Sum.inr) hFlush

end OpenedStore

/- A store that was just opened has no changes to save. -/
theorem Uri.not_isUnsaved_of_open
    {uri : Uri}
    {world : World}
    {store : OpenedStore}
    (hOpen : uri.open world = .ok store) :
    ¬ store.IsUnsaved := by
  cases uri with
  | directory path =>
      rcases map_eq_ok_iff.1 hOpen with ⟨found, _, hStore⟩
      rw [← hStore]
      exact id
  | snapshot path =>
      rcases map_eq_ok_iff.1 hOpen with
        ⟨found, hLoad, hStore⟩
      rw [← hStore]
      exact Snapshot.not_isUnsaved_of_load hLoad

end TreeKeeper
