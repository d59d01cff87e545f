import TreeKeeper.FileTree.Listing
import TreeKeeper.Proofs.Store.Places

/-
  How far removals reach.  A removal takes out one object at
  most, and its place is below the root, as far as names go.
  The object lies below the root directory as well, unless a
  symbolic link in the middle of the names leads out of it.

  Key definitions include:
    * `DirectoryStore.TakesOut`

  Main declarations:
    * `DirectoryStore.confined_remove`
-/

------------------------------------------------------------
-- Confinement
------------------------------------------------------------

namespace TreeKeeper

namespace DirectoryStore

/-
  How an entry is taken out of a store: the names that its
  path is resolved to lead from the root to one object that
  holds nothing, and only this object is gone afterwards.  It
  is not the root directory, and it lies below it where the
  names say, if none of those in front is a link.
-/
structure TakesOut
    (store : DirectoryStore)
    (entry : Entry)
    (before after : World)
    (root names base location : Location)
    (object : FileObject) : Prop where
  rooted : store.IsRootedAt root
  named : names.IsNamed
  strict : names ≠ []
  resolves :
    store.resolve entry = .ok (pathOf (root ++ names))
  leads :
    before.tree.objectAt false before.directory
        (pathOf (root ++ names)) =
      .ok (location, object)
  loses : before.tree.Loses after.tree location object
  remains : after = before.withTree after.tree
  anchored :
    ∃ data,
      before.tree.objectAt true before.directory
          store.root =
        .ok (base, .directory data)
  apart : location ≠ base
  below :
    location = base ++ names ∨
      before.tree.LeavesBy base names

variable {store : DirectoryStore}
variable {path : String}
variable {opened before after : World}
variable {entry : Entry}
variable {result : Except StoreFault Unit}

/-
  A removal in a store that was opened at any path, at any
  later time.
-/
theorem confined_remove
    (hOpen : DirectoryStore.open path opened = .ok store)
    (hRemove :
      store.remove entry before = (result, after)) :
    (result ≠ .ok () → after = before) ∧
      (after = before ∨
        ∃ root names base location object,
          store.TakesOut entry before after root names base
            location object) := by
  rcases exists_isRootedAt_of_open hOpen with ⟨root, hRoot⟩
  rcases remove_cases hRoot hRemove with hSame |
    ⟨rfl, names, location, object, later, hNamed, hNames,
      hResolve, hFound, hLoses, rfl⟩
  · exact ⟨fun _ => hSame, .inl hSame⟩
  refine ⟨fun hFault => absurd rfl hFault, .inr ?_⟩
  rcases FileTree.exists_base_of_objectAt hRoot.named hNamed
      hNames hFound with
    ⟨base, data, hBase, hBelow⟩
  have hApart : location ≠ base := by
    rintro rfl
    -- Something below the root would make it stay.
    rcases hBelow with ⟨hSelf, -⟩ |
      ⟨front, name, rest, _, target, _, _, hLink⟩
    · exact hNames (List.self_eq_append_right.1 hSelf)
    · rw [List.append_assoc] at hLink
      exact FileTree.not_isBare_of_find? (by simp) hLink
        hLoses.bare
  rw [← hRoot.root_eq] at hBase
  exact ⟨root, names, base, location, object, hRoot, hNamed,
    hNames, hResolve, hFound, hLoses, rfl, ⟨data, hBase⟩,
    hApart, hBelow.imp_left And.left⟩

/- Two directories, with a link from one to the other. -/
def linkedDirectories : World where
  tree :=
    let file := .file FileTree.newFile ""
    (((FileTree.empty.plant ["inside"]
      (.directory FileTree.newDirectory)).plant
      ["inside", "link"]
      (.symlink FileTree.newLink "../outside")).plant
      ["inside", "kept"] file).plant
      ["outside", "victim"] file

/- The store of one of them. -/
def insideStore : DirectoryStore :=
  ⟨"/inside"⟩

theorem open_insideStore :
    DirectoryStore.open "/inside" linkedDirectories =
      .ok insideStore := by
  have hLook :
      linkedDirectories.tree.look linkedDirectories.directory
          insideStore.root =
        .ok (.directory FileTree.newDirectory) := by
    decide +kernel
  exact open_of_look (by decide +kernel) hLook

/- A file that is removed where its path says. -/
theorem confined_remove_kept :
    ∃ root names base location object,
      insideStore.TakesOut (Entry.ofPath "/kept" {})
        linkedDirectories
        (insideStore.remove (Entry.ofPath "/kept" {})
          linkedDirectories).2
        root names base location object := by
  have hGone :
      (insideStore.remove (Entry.ofPath "/kept" {})
        linkedDirectories).2.tree.find? ["inside", "kept"] =
          none := by decide +kernel
  refine (confined_remove open_insideStore
    (Prod.eta _).symm).2.resolve_left fun hSame => ?_
  rw [hSame] at hGone
  have hThere :
      linkedDirectories.tree.find? ["inside", "kept"] ≠
        none := by decide +kernel
  exact hThere hGone

/-
  A removal that names an entry below the root and takes out
  a file of another directory, beyond a link.
-/
theorem removed_beyond_link :
    let world := linkedDirectories
    let removal :=
      insideStore.remove (Entry.ofPath "/link/victim" {})
        world
    DirectoryStore.open "/inside" world = .ok insideStore ∧
    world.tree.objectAt true world.directory
        insideStore.root =
      .ok (["inside"], .directory FileTree.newDirectory) ∧
    removal.1 = .ok () ∧
    world.tree.find? ["outside", "victim"] =
      some (.file FileTree.newFile "") ∧
    removal.2.tree.find? ["outside", "victim"] = none ∧
    ¬ ["inside"] <+: ["outside", "victim"] := by
  intro world removal
  exact ⟨open_insideStore, by decide +kernel,
    by decide +kernel, by decide +kernel, by decide +kernel,
    by decide +kernel⟩

end DirectoryStore

end TreeKeeper
