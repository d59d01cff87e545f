import TreeKeeper.Proofs.FileTree.Erasing

/-
  The places of entries.  The root of a store and the place of
  each entry are paths of names, and the place lies at the
  root or below it, as far as names go.  A removal takes out
  the object at the place of its entry, or nothing.

  Key definitions include:
    * `DirectoryStore.IsRootedAt`

  Main declarations:
    * `DirectoryStore.exists_isRootedAt_of_open`
    * `DirectoryStore.exists_names_of_resolve`
    * `DirectoryStore.resolve_pathOf`
    * `DirectoryStore.remove_cases`
-/

------------------------------------------------------------
-- Roots
------------------------------------------------------------

namespace TreeKeeper

namespace DirectoryStore

/- Whether names lead to the root of a store. -/
structure IsRootedAt
    (store : DirectoryStore)
    (root : Location) : Prop where
  named : root.IsNamed
  root_eq : store.root = pathOf root

/- Texts of names make a location. -/
theorem isNamed_ofTexts
    {ns : List (List Char)}
    (hNames : ∀ n ∈ ns, Path.IsName n) :
    Location.IsNamed (ns.map String.ofList) := by
  intro name hName
  rcases List.mem_map.1 hName with ⟨n, hn, rfl⟩
  rw [String.toList_ofList]
  exact hNames n hn

theorem ofNames_eq_pathOf
    (ns : List (List Char)) :
    Path.ofNames ns = pathOf (ns.map String.ofList) := by
  unfold pathOf
  rw [List.map_map]
  congr 1
  exact (List.map_id'' (fun _ => String.toList_ofList) ns).symm

variable {store : DirectoryStore}
variable {root names : Location}
variable {entry : Entry}

/- A store is opened where something is. -/
theorem open_of_look
    {path : String}
    {world : World}
    {object : FileObject}
    (hRoot :
      Path.normalize
          (Path.join (pathOf world.directory) path) =
        store.root)
    (hLook :
      world.tree.look world.directory store.root =
        .ok object) :
    DirectoryStore.open path world = .ok store := by
  unfold DirectoryStore.open
  dsimp only
  rw [hRoot, hLook]

/- A store is opened at an absolute path without dots. -/
theorem exists_isRootedAt_of_open
    {path : String}
    {world : World}
    (hOpen : DirectoryStore.open path world = .ok store) :
    ∃ root, store.IsRootedAt root := by
  unfold DirectoryStore.open at hOpen
  dsimp only at hOpen
  split at hOpen
  · cases hOpen
    have hAbsolute :
        Path.isAbsolute
          (Path.join (pathOf world.directory) path) = true :=
      Path.isAbsolute_join _ path
    refine ⟨_, isNamed_ofTexts (Path.isName_names hAbsolute),
      ?_⟩
    unfold Path.normalize
    rw [if_pos hAbsolute]
    exact ofNames_eq_pathOf _
  · exact nomatch hOpen

------------------------------------------------------------
-- Places
------------------------------------------------------------

/- The place of an entry lies below the root, by its names. -/
theorem exists_names_of_resolve
    {path : String}
    (hRoot : store.IsRootedAt root)
    (hResolve : store.resolve entry = .ok path) :
    ∃ names : Location, names.IsNamed ∧
      path = pathOf (root ++ names) := by
  unfold resolve at hResolve
  split at hResolve
  · rename_i place hPlace
    cases hResolve
    rw [hRoot.root_eq] at hPlace
    rcases Path.exists_names_of_resolveUnder
        hRoot.named.toTexts hPlace with
      ⟨ms, hNames, rfl⟩
    refine ⟨ms.map String.ofList, isNamed_ofTexts hNames, ?_⟩
    rw [ofNames_eq_pathOf, List.map_append, List.map_map]
    congr 2
    exact List.map_id'' (fun _ => String.ofList_toList) root
  · exact nomatch hResolve

/- The entry of an object below the root has its place. -/
theorem resolve_pathOf
    (hRoot : store.IsRootedAt root)
    (hNamed : names.IsNamed)
    (hEntry : entry.path = pathOf names) :
    store.resolve entry = .ok (pathOf (root ++ names)) := by
  unfold resolve
  rw [hEntry, hRoot.root_eq]
  unfold pathOf
  rw [Path.resolveUnder_ofNames hRoot.named.toTexts
    hNamed.toTexts, List.map_append]

/- Locations of names are as different as their paths. -/
theorem pathOf_injective
    {first second : Location}
    (hFirst : first.IsNamed)
    (hSecond : second.IsNamed)
    (hSame : pathOf first = pathOf second) :
    first = second :=
  (List.map_inj_right fun _ _ => String.toList_inj.1).1
    (Path.ofNames_injective hFirst.toTexts hSecond.toTexts
      hSame)

------------------------------------------------------------
-- Removals
------------------------------------------------------------

variable {before after : World}
variable {result : Except StoreFault Unit}

/-
  What a removal does: nothing, with a fault or without one,
  or it takes out what the place of the entry leads to.
-/
theorem remove_cases
    (hRoot : store.IsRootedAt root)
    (hRemove :
      store.remove entry before = (result, after)) :
    after = before ∨
      result = .ok () ∧
      ∃ names location object later,
        Location.IsNamed names ∧
        names ≠ [] ∧
        store.resolve entry = .ok (pathOf (root ++ names)) ∧
        before.tree.objectAt false before.directory
            (pathOf (root ++ names)) =
          .ok (location, object) ∧
        before.tree.Loses later location object ∧
        after = before.withTree later := by
  unfold remove at hRemove
  split at hRemove
  · cases hRemove
    exact .inl rfl
  rename_i path hResolve
  split at hRemove
  · cases hRemove
    exact .inl rfl
  rename_i hOther
  split at hRemove
  · cases hRemove
    exact .inl rfl
  · cases hRemove
    exact .inl rfl
  split at hRemove
  · rename_i later hRemoved
    cases hRemove
    rcases exists_names_of_resolve hRoot hResolve with
      ⟨names, hNamed, rfl⟩
    rcases loses_of_removeObject hRemoved with
      ⟨location, object, hFound, hLoses⟩
    have hNames : names ≠ [] := by
      rintro rfl
      rw [List.append_nil] at hOther
      exact hOther hRoot.root_eq.symm
    exact .inr ⟨rfl, names, location, object, later, hNamed,
      hNames, hResolve, hFound, hLoses, rfl⟩
  · cases hRemove
    exact .inl rfl
  · cases hRemove
    exact .inl rfl

end DirectoryStore

end TreeKeeper
