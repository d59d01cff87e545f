import TreeKeeper.Proofs.Store.Operations
import TreeKeeper.Proofs.Store.Saving

/-
  Snapshots and their files.  As long as a snapshot is not
  marked as changed its file holds its entries, whatever was
  done to it since it was loaded, and writing it back brings
  the file up to date.

  Key definitions include:
    * `Snapshot.InStep`

  Main declarations:
    * `Snapshot.InStep.perform`
    * `Snapshot.inStep_performAll`
    * `Snapshot.load_of_kept`
-/

------------------------------------------------------------
-- Snapshots In Step With Files
------------------------------------------------------------

namespace TreeKeeper

namespace Snapshot

/-
  Whether the file at a path holds the entries of a snapshot,
  or the snapshot is marked as changed.
-/
structure InStep
    (path : String)
    (snapshot : Snapshot)
    (world : World) : Prop where
  path_eq : snapshot.path = some path
  kept :
    snapshot.isChanged = false →
      load path world = .ok (ofEntries path snapshot.entries)

theorem inStep_of_load
    {path : String}
    {world : World}
    {snapshot : Snapshot}
    (hLoad : load path world = .ok snapshot) :
    snapshot.InStep path world := by
  rcases load_eq_ok_iff.1 hLoad with ⟨_, _, _, _, rfl⟩
  exact ⟨rfl, fun _ => hLoad⟩

namespace InStep

variable {path : String} {snapshot : Snapshot}
variable {world : World}

/- What is marked as changed owes nothing to the file. -/
theorem of_changed
    (hPath : snapshot.path = some path)
    (hChanged : snapshot.isChanged = true) :
    snapshot.InStep path world := by
  refine ⟨hPath, ?_⟩
  intro hUnchanged
  exact nomatch hUnchanged.symm.trans hChanged

/- Changes that leave the file alone are marked. -/
theorem of_does
    {operation : Operation}
    {result : Except StoreFault Unit}
    {later : Snapshot}
    (hStep : snapshot.InStep path world)
    (hDoes : operation.Does snapshot result later)
    (hOther : operation ≠ .flush) :
    later.InStep path world := by
  cases hDoes with
  | removed _ _ _ _ hPath hChanged =>
      exact of_changed (hPath.trans hStep.path_eq) hChanged
  | gone => exact hStep
  | migrated _ _ _ _ _ _ hPath hChanged =>
      exact of_changed (hPath.trans hStep.path_eq) hChanged
  | noTarget => exact hStep
  | noEntry => exact hStep
  | flushed => exact absurd rfl hOther

/- A mark is taken away only by writing the file. -/
theorem flush
    (hStep : snapshot.InStep path world) :
    (snapshot.flush world).2.1.InStep path
      (snapshot.flush world).2.2 := by
  cases snapshot.does_flush world with
  | flushed hAfter hPath hChanged =>
      refine ⟨hPath.trans hStep.path_eq, ?_⟩
      intro hUnchanged
      have hDone : (snapshot.flush world).1 = .ok () := by
        rcases hChanged with hMark | ⟨hDone, _⟩
        · rw [flush_of_saved (not_isUnsaved_of_unchanged
            (hMark.symm.trans hUnchanged))]
        · exact hDone
      rw [hAfter]
      exact load_flush hStep.path_eq hStep.kept hDone

/- One operation, of which flushing alone may write. -/
theorem perform
    (hStep : snapshot.InStep path world)
    (operation : Operation) :
    (snapshot.perform operation world).2.1.InStep path
      (snapshot.perform operation world).2.2 := by
  have hDoes := snapshot.does_perform operation world
  cases operation with
  | remove entry => exact hStep.of_does hDoes nofun
  | migrate entry parameters =>
      have hWorld :
          (snapshot.perform (.migrate entry parameters)
            world).2.2 = world := by
        simp only [Snapshot.perform, Store.migrate]
        split
        · rfl
        · rfl
      rw [hWorld]
      exact hStep.of_does hDoes nofun
  | flush => exact hStep.flush

/- A flush that succeeds leaves no mark of changes. -/
theorem isChanged_flush
    (hStep : snapshot.InStep path world)
    (hFlush : (snapshot.flush world).1 = .ok ()) :
    (snapshot.flush world).2.1.isChanged = false := by
  cases hChanged : snapshot.isChanged with
  | true =>
      exact (flush_eq_of_changed hStep.path_eq hChanged
        hFlush).2.1
  | false =>
      rw [flush_of_saved (not_isUnsaved_of_unchanged hChanged)]
      exact hChanged

end InStep

------------------------------------------------------------
-- Runs
------------------------------------------------------------

theorem inStep_performAll
    {path : String}
    {start : World}
    {loaded : Snapshot}
    (hLoad : load path start = .ok loaded)
    (operations : List Operation) :
    (performAll operations loaded start).1.InStep path
      (performAll operations loaded start).2 := by
  refine holds_performAll (inStep_of_load hLoad) ?_
  intro operation _ snapshot world hStep
  exact hStep.perform operation

/-
  What is saved is what is loaded.  After any operations on a
  snapshot that was loaded its file holds its entries if it is
  not marked as changed, and it is not once it was written.
-/
theorem load_of_kept :
    (∀ (snapshot : Snapshot) (path : String) (world : World),
      (snapshot.save path world).1 = .ok () →
        load path (snapshot.save path world).2 =
          .ok (ofEntries path snapshot.entries)) ∧
    ∀ (path : String) (start : World) (loaded : Snapshot),
      load path start = .ok loaded →
        ∀ operations : List Operation,
          let run := performAll operations loaded start
          let flushed := run.1.flush run.2
          (run.1.isChanged = false →
            load path run.2 =
              .ok (ofEntries path run.1.entries)) ∧
          (flushed.1 = .ok () →
            flushed.2.1.isChanged = false ∧
              load path flushed.2.2 =
                .ok (ofEntries path flushed.2.1.entries)) := by
  refine ⟨fun _ _ _ => load_save, ?_⟩
  intro path start loaded hLoad operations run flushed
  have hStep := inStep_performAll hLoad operations
  refine ⟨hStep.kept, fun hFlush => ?_⟩
  have hUnchanged := hStep.isChanged_flush hFlush
  exact ⟨hUnchanged, hStep.flush.kept hUnchanged⟩

/-
  A new file of two entries, of which one is removed and one
  moved before the file is written again.
-/
theorem load_of_kept_moved :
    let first := Entry.ofPath "/a\n" { size := 1 }
    let second := Entry.ofPath "/b" { size := 2 }
    let origin := ofEntries "/index" [first, second]
    let saved := origin.save "/index" {}
    let target := Dictionary.empty.insert "target" "cold"
    let run :=
      performAll [.remove second, .migrate first target]
        origin saved.2
    let flushed := run.1.flush run.2
    load "/index" saved.2 = .ok origin ∧
      flushed.2.1.isChanged = false ∧
      load "/index" flushed.2.2 =
        .ok (ofEntries "/index"
          [withTier "cold" first]) := by
  intro first second origin saved target run flushed
  have hSaved : saved.1 = .ok () := by
    rw [← toOption_eq_some_iff]
    decide +kernel
  have hFlushed : flushed.1 = .ok () := by
    rw [← toOption_eq_some_iff]
    decide +kernel
  have hEntries :
      flushed.2.1.entries = [withTier "cold" first] := by
    decide +kernel
  have hLoad : load "/index" saved.2 = .ok origin :=
    load_of_kept.1 origin "/index" {} hSaved
  have hRun :
      flushed.2.1.isChanged = false ∧
        load "/index" flushed.2.2 =
          .ok (ofEntries "/index" flushed.2.1.entries) :=
    (load_of_kept.2 "/index" saved.2 origin hLoad
      [.remove second, .migrate first target]).2 hFlushed
  rw [hEntries] at hRun
  exact ⟨hLoad, hRun⟩

end Snapshot

end TreeKeeper
