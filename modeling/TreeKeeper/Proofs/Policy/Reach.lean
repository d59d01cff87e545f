import TreeKeeper.Proofs.Policy.Ending

/-
  How far actions reach.  Applied or only reported, an action
  changes each store by its own entry at most, and writes to
  the output only if it prints.

  Key definitions include:
    * `Store.Changes`
    * `Stage.Reaches`

  Main declarations:
    * `Stage.reaches_apply`
-/

------------------------------------------------------------
-- Changes Of Stores
------------------------------------------------------------

namespace TreeKeeper

/-
  Whether a store is another one, or what removing or
  migrating an entry leaves of it.
-/
inductive Store.Changes
    {β κ : Type}
    [Store β κ]
    (entry : Entry)
    (store : β) : β → Prop
| kept : Changes entry store store
| removed
    (world : World) :
    Changes entry store (Store.remove store entry world).2.1
| migrated
    (parameters : Dictionary String)
    (world : World) :
    Changes entry store
      (Store.migrate store entry parameters world).2.1

------------------------------------------------------------
-- Actions
------------------------------------------------------------

variable {β γ κ μ : Type}
variable [Store β κ] [Store γ μ]

namespace Stage

/- An output behind the line that an action may print. -/
def printed
    (prepared : Prepared)
    (entry : Entry)
    (out : Sink) : Sink :=
  if prepared.kind = .print then
    (out.write (entry.path ++ "\n")).2
  else out

/-
  Whether a stage is what an action on an entry can make of
  another one: each store changes by this entry at most, and
  only printing writes to the output.
-/
structure Reaches
    (stage : Stage β γ)
    (prepared : Prepared)
    (entry : Entry)
    (after : Stage β γ) : Prop where
  index : Store.Changes entry stage.index after.index
  live : Store.Changes entry stage.live after.live
  out : after.out = printed prepared entry stage.out

variable {prepared : Prepared} {entry : Entry}

theorem printed_of_ne
    (hKind : prepared.kind ≠ .print)
    (out : Sink) :
    out = printed prepared entry out :=
  (if_neg hKind).symm

theorem reaches_of_kept
    {stage after : Stage β γ}
    (hKind : prepared.kind ≠ .print)
    (hIndex : after.index = stage.index)
    (hLive : after.live = stage.live)
    (hOut : after.out = stage.out) :
    stage.Reaches prepared entry after where
  index := hIndex ▸ .kept
  live := hLive ▸ .kept
  out := hOut.trans (printed_of_ne hKind _)

theorem reaches_delete
    (stage : Stage β γ)
    (hKind : prepared.kind ≠ .print) :
    stage.Reaches prepared entry
      (stage.delete entry).2 := by
  have hLive :
      Store.Changes entry stage.live
        (Store.remove stage.live entry stage.world).2.1 :=
    .removed stage.world
  unfold delete removeLive
  generalize Store.remove stage.live entry stage.world =
    removed at hLive ⊢
  rcases removed with ⟨result, live, world⟩
  cases result with
  | error fault =>
      exact ⟨.kept, hLive, printed_of_ne hKind _⟩
  | ok done =>
      have hIndex :
          Store.Changes entry stage.index
            (Store.remove stage.index entry world).2.1 :=
        .removed world
      unfold removeIndexed
      dsimp only [record]
      generalize Store.remove stage.index entry world =
        indexed at hIndex ⊢
      rcases indexed with ⟨result, index, world⟩
      split
      · cases result <;>
          exact ⟨hIndex, hLive, printed_of_ne hKind _⟩
      · exact ⟨.kept, hLive, printed_of_ne hKind _⟩

theorem reaches_migrate
    (stage : Stage β γ)
    (parameters : Dictionary String)
    (hKind : prepared.kind ≠ .print) :
    stage.Reaches prepared entry
      (stage.migrate entry parameters).2 := by
  have hLive :
      Store.Changes entry stage.live
        (Store.migrate stage.live entry parameters
          stage.world).2.1 :=
    .migrated parameters stage.world
  unfold migrate migrateLive
  generalize Store.migrate stage.live entry parameters
    stage.world = migrated at hLive ⊢
  rcases migrated with ⟨result, live, world⟩
  cases result with
  | error fault =>
      exact ⟨.kept, hLive, printed_of_ne hKind _⟩
  | ok done =>
      have hIndex :
          Store.Changes entry stage.index
            (Store.migrate stage.index entry parameters
              world).2.1 :=
        .migrated parameters world
      unfold migrateIndexed
      dsimp only [record]
      generalize Store.migrate stage.index entry parameters
        world = indexed at hIndex ⊢
      rcases indexed with ⟨result, index, world⟩
      split
      · cases result <;>
          exact ⟨hIndex, hLive, printed_of_ne hKind _⟩
      · exact ⟨.kept, hLive, printed_of_ne hKind _⟩

theorem reaches_run
    (stage : Stage β γ)
    (launch : Launcher)
    (hKind : prepared.kind ≠ .print) :
    stage.Reaches prepared entry
      (stage.run launch prepared entry).2 := by
  unfold run
  dsimp only
  split <;> exact reaches_of_kept hKind rfl rfl rfl

theorem reaches_print
    (stage : Stage β γ)
    (hKind : prepared.kind = .print) :
    stage.Reaches prepared entry
      (stage.write (entry.path ++ "\n")).2 where
  index := .kept
  live := .kept
  out := (if_pos hKind).symm

theorem reaches_act
    (stage : Stage β γ)
    (launch : Launcher)
    (prepared : Prepared)
    (entry : Entry) :
    stage.Reaches prepared entry
      (stage.act launch prepared entry).2 := by
  unfold act
  cases hKind : prepared.kind with
  | delete => exact reaches_delete stage (by simp [hKind])
  | migrate =>
      exact reaches_migrate stage _ (by simp [hKind])
  | command =>
      exact reaches_run stage launch (by simp [hKind])
  | print =>
      have hWrite :
          stage.Reaches prepared entry
            (stage.write (entry.path ++ "\n")).2 :=
        reaches_print stage hKind
      dsimp only
      generalize stage.write (entry.path ++ "\n") = written
        at hWrite ⊢
      rcases written with ⟨isComplete, after⟩
      cases isComplete <;> exact hWrite
  | log => exact reaches_of_kept (by simp [hKind]) rfl rfl rfl
  | count =>
      exact reaches_of_kept (by simp [hKind]) rfl rfl rfl
  | noop =>
      exact reaches_of_kept (by simp [hKind]) rfl rfl rfl

/- Applied or only reported, an action reaches this far. -/
theorem reaches_apply
    (stage : Stage β γ)
    (launch : Launcher)
    (prepared : Prepared)
    (dryRun : Bool)
    (entry : Entry) :
    stage.Reaches prepared entry
      (stage.apply launch prepared dryRun entry).2 := by
  unfold apply
  split
  · rename_i hSupported
    have hKind : prepared.kind ≠ .print := by
      intro hPrint
      rw [hPrint] at hSupported
      exact nomatch hSupported
    exact reaches_of_kept hKind rfl rfl rfl
  · split
    · rename_i hDestructive
      have hKind : prepared.kind ≠ .print := by
        intro hPrint
        rw [hPrint, Bool.and_comm] at hDestructive
        exact nomatch hDestructive
      exact reaches_of_kept hKind rfl rfl rfl
    · exact reaches_act stage launch prepared entry

end Stage

end TreeKeeper
