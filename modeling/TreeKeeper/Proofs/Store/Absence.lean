import TreeKeeper.FileTree.Listing
import TreeKeeper.Proofs.FileTree.Absence
import TreeKeeper.Proofs.Store.Places

/-
  Removing what is not there.  Nothing changes, and it counts
  as a success if the path of the entry ends where something
  is missing.  It fails if a file stands in the way of the
  path.  What was removed can be removed again.

  Main declarations:
    * `DirectoryStore.remove_of_objectAt_eq_error`
    * `DirectoryStore.remove_again`
    * `DirectoryStore.remove_of_absent`
-/

------------------------------------------------------------
-- Removing Nothing
------------------------------------------------------------

namespace TreeKeeper

namespace DirectoryStore

variable {store : DirectoryStore}
variable {root : Location}
variable {entry : Entry}
variable {path place : String}
variable {opened before after : World}

/- Where nothing is, nothing happens, and it may be a fault. -/
theorem remove_of_objectAt_eq_error
    {fault : FileFault}
    (hResolve : store.resolve entry = .ok place)
    (hBelow : place ≠ store.root)
    (hNothing :
      before.tree.objectAt false before.directory place =
        .error fault) :
    store.remove entry before =
      (if fault = .missing then .ok ()
        else .error (.io place fault), before) := by
  have hLook :
      before.tree.look before.directory place =
        .error fault := by
    unfold FileTree.look
    rw [hNothing]
    rfl
  unfold remove look?
  rw [hResolve]
  dsimp only
  rw [if_neg hBelow, hLook]
  cases fault <;> rfl

/- A removal that succeeded succeeds again. -/
theorem remove_again
    (hRoot : store.IsRootedAt root)
    (hRemove : store.remove entry before = (.ok (), after)) :
    store.remove entry after = (.ok (), after) := by
  rcases remove_cases hRoot hRemove with rfl |
    ⟨-, names, location, object, later, hNamed, hNames,
      hResolve, hFound, hLoses, rfl⟩
  · exact hRemove
  have hAll := hRoot.named.append hNamed
  have hBelow : pathOf (root ++ names) ≠ store.root := by
    rw [hRoot.root_eq]
    intro hSame
    have hEqual := pathOf_injective hAll hRoot.named hSame
    exact hNames (List.self_eq_append_right.1 hEqual.symm)
  have hMissing :
      (before.withTree later).tree.objectAt false
          (before.withTree later).directory
          (pathOf (root ++ names)) =
        .error .missing :=
    FileTree.objectAt_of_loses hAll hLoses hFound
  exact remove_of_objectAt_eq_error hResolve hBelow hMissing

/-
  A removal of an entry whose place is below the root of a
  store and holds no object.  It leaves everything as it is.
  It succeeds if and only if the names of the place lead, over
  directories and links, to a name that is not there, whether
  it is the last one or stands behind any number of
  directories.  It is refused for want of a directory exactly
  if they lead to something else, such as a file, that has
  names behind it and is no link.  Whatever was removed can be
  removed again.
-/
theorem remove_of_absent
    (hOpen : DirectoryStore.open path opened = .ok store) :
    (∀ entry place before,
      store.resolve entry = .ok place →
      place ≠ store.root →
      (∀ found,
        before.tree.objectAt false before.directory place ≠
          .ok found) →
      ∃ location : Location,
        location.IsNamed ∧
        place = pathOf location ∧
        (store.remove entry before).2 = before ∧
        ((store.remove entry before).1 = .ok () ↔
          FileTree.FitsPath place ∧
            ∃ rest, before.tree.Meets location none rest) ∧
        (∀ front name rest,
          location = front ++ name :: rest →
          before.tree.hasDirectory front = true →
          (∀ piece ∈ front ++ [name],
            FileTree.IsLookedUp piece) →
          before.tree.find? (front ++ [name]) = none →
          FileTree.FitsPath place →
          (store.remove entry before).1 = .ok ()) ∧
        ((store.remove entry before).1 =
            .error (.io place .notDirectory) ↔
          FileTree.FitsPath place ∧
            ∃ object rest,
              object.isDirectory = false ∧
              object.target? = none ∧
              rest ≠ [] ∧
              before.tree.Meets location (some object)
                rest)) ∧
    (∀ entry before after,
      store.remove entry before = (.ok (), after) →
      store.remove entry after = (.ok (), after)) := by
  rcases exists_isRootedAt_of_open hOpen with ⟨root, hRoot⟩
  refine ⟨?_, fun entry before after hRemove =>
    remove_again hRoot hRemove⟩
  intro entry place before hResolve hBelow hNothing
  rcases exists_names_of_resolve hRoot hResolve with
    ⟨names, hNamed, rfl⟩
  have hAll := hRoot.named.append hNamed
  cases hLeads :
      before.tree.objectAt false before.directory
        (pathOf (root ++ names)) with
  | ok found => exact absurd hLeads (hNothing found)
  | error fault =>
      have hSucceeds :
          (store.remove entry before).1 = .ok () ↔
            FileTree.FitsPath (pathOf (root ++ names)) ∧
              ∃ rest,
                before.tree.Meets (root ++ names) none rest := by
        rw [remove_of_objectAt_eq_error hResolve hBelow hLeads,
          ← FileTree.objectAt_eq_missing_iff hAll, hLeads]
        cases fault <;> simp
      refine ⟨root ++ names, hAll, rfl, ?_, hSucceeds, ?_, ?_⟩
      · rw [remove_of_objectAt_eq_error hResolve hBelow hLeads]
      · intro front name rest hSplit hFront hNames hNone hFits
        have hMeets :=
          FileTree.meets_of_directory hFront hNames rest
        rw [hNone, ← hSplit] at hMeets
        exact hSucceeds.2 ⟨hFits, rest, hMeets⟩
      · rw [remove_of_objectAt_eq_error hResolve hBelow hLeads,
          ← FileTree.objectAt_eq_notDirectory_iff hAll, hLeads]
        cases fault <;> simp

/- A directory with a file and a directory in it. -/
def fileAndDirectory : World where
  tree :=
    let directory := .directory FileTree.newDirectory
    ((FileTree.empty.plant ["data"] directory).plant
      ["data", "a"] (.file FileTree.newFile "")).plant
      ["data", "d"] directory

/- The store of this directory. -/
def dataStore : DirectoryStore :=
  ⟨"/data"⟩

theorem open_dataStore :
    DirectoryStore.open "/data" fileAndDirectory =
      .ok dataStore := by
  have hLook :
      fileAndDirectory.tree.look fileAndDirectory.directory
          dataStore.root =
        .ok (.directory FileTree.newDirectory) := by
    decide +kernel
  exact open_of_look (by decide +kernel) hLook

/-
  A name that is missing in the middle of a path, and a file
  that is removed twice.
-/
theorem remove_of_absent_twice :
    let gone := Entry.ofPath "/d/x/y" {}
    let file := Entry.ofPath "/a" {}
    let first := dataStore.remove file fileAndDirectory
    (dataStore.remove gone fileAndDirectory).1 = .ok () ∧
    first.1 = .ok () ∧
    first.2.tree.find? ["data", "a"] = none ∧
    dataStore.remove file first.2 = (.ok (), first.2) := by
  intro gone file first
  rcases remove_of_absent open_dataStore with
    ⟨hAbsent, hAgain⟩
  have hFirst : first.1 = .ok () := by decide +kernel
  have hRemoved :
      dataStore.remove file fileAndDirectory =
        (first.1, first.2) :=
    (Prod.eta _).symm
  rw [hFirst] at hRemoved
  have hMissing :
      fileAndDirectory.tree.objectAt false
          fileAndDirectory.directory "/data/d/x/y" =
        .error .missing := by decide +kernel
  have hPlace :
      dataStore.resolve gone = .ok "/data/d/x/y" := by
    decide +kernel
  rcases hAbsent gone "/data/d/x/y" fileAndDirectory hPlace
      (by decide +kernel) (by rw [hMissing]; exact nofun) with
    ⟨location, hNamed, hPath, -, -, hSucceeds, -⟩
  have hLocation : location = ["data", "d", "x", "y"] :=
    pathOf_injective hNamed (by decide)
      (hPath.symm.trans (by decide))
  refine ⟨?_, hFirst, by decide +kernel,
    hAgain file fileAndDirectory first.2 hRemoved⟩
  refine hSucceeds ["data", "d"] "x" ["y"] hLocation
    (by decide +kernel) ?_ (by decide +kernel)
    ⟨by decide, by decide⟩
  simp only [List.cons_append, List.nil_append,
    List.forall_mem_cons]
  exact ⟨⟨by decide, by decide, by decide⟩,
    ⟨by decide, by decide, by decide⟩,
    ⟨by decide, by decide, by decide⟩, List.forall_mem_nil _⟩

/- A file where a directory was makes a removal fail. -/
theorem remove_refused_behind_file :
    let entry := Entry.ofPath "/a/b" {}
    let world := fileAndDirectory
    DirectoryStore.open "/data" world = .ok dataStore ∧
    dataStore.resolve entry = .ok "/data/a/b" ∧
    "/data/a/b" ≠ dataStore.root ∧
    (∀ found,
      world.tree.objectAt false world.directory
        "/data/a/b" ≠ .ok found) ∧
    (dataStore.remove entry world).1 =
      .error (.io "/data/a/b" .notDirectory) := by
  intro entry world
  have hBlocked :
      world.tree.objectAt false world.directory "/data/a/b" =
        .error .notDirectory := by decide +kernel
  exact ⟨open_dataStore, by decide +kernel, by decide +kernel,
    by rw [hBlocked]; exact nofun, by decide +kernel⟩

end DirectoryStore

end TreeKeeper
