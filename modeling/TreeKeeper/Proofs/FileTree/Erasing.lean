import TreeKeeper.Proofs.FileTree.Walking

/-
  Removing one object from a file tree.  Only an object that
  holds nothing is removed, every other object stays where it
  is, and an object that holds nothing is removed if a path
  leads to it.

  Key definitions include:
    * `FileTree.IsBare`
    * `FileTree.Loses`

  Main declarations:
    * `FileTree.loses_of_erase?`
    * `FileTree.exists_erase?_of_isBare`
    * `DirectoryStore.loses_of_removeObject`
    * `DirectoryStore.exists_of_removeObject`
-/

------------------------------------------------------------
-- Erasing
------------------------------------------------------------

namespace TreeKeeper

namespace FileTree

variable {tree later : FileTree}
variable {location : Location}
variable {object : FileObject}

/- Whether nothing lies in a location. -/
def IsBare (tree : FileTree) (location : Location) : Prop :=
  ∀ name, tree.find? (location ++ [name]) = none

theorem isBare_iff :
    tree.IsBare location ↔ tree.hasChild location = false := by
  unfold hasChild
  rw [List.any_eq_false]
  constructor
  · intro hBare p hMember hChild
    rw [beq_iff_eq] at hChild
    have hSome := (tree.nested p hMember).1
    have hFound := find?_of_mem hMember
    rw [← List.dropLast_concat_getLast hSome, hChild,
      hBare] at hFound
    exact nomatch hFound
  · intro hNone name
    cases hFound : tree.find? (location ++ [name]) with
    | none => rfl
    | some object =>
        have hChild := hNone _ (mem_of_lookup hFound)
        rw [List.dropLast_concat, beq_self_eq_true] at hChild
        exact absurd rfl hChild

/- What lies below an object begins with something in it. -/
theorem not_isBare_of_find?
    {names : Location}
    (hNames : names ≠ [])
    (hFound :
      tree.find? (location ++ names) = some object) :
    ¬tree.IsBare location := by
  induction names using List.reverseRecOn generalizing
      object with
  | nil => exact absurd rfl hNames
  | append_singleton names name ih =>
      by_cases hNil : names = []
      · subst hNil
        intro hBare
        rw [List.nil_append, hBare] at hFound
        exact nomatch hFound
      · have hParent := (hasDirectory_dropLast hFound).2
        rw [← List.append_assoc, List.dropLast_concat]
          at hParent
        rcases hasDirectory_iff.1 hParent with ⟨data, hListed⟩
        rw [object?_append hNil] at hListed
        exact ih hNil hListed

/-
  Whether a tree has lost one object that holds nothing, and
  all others are where they were.
-/
structure Loses
    (tree later : FileTree)
    (location : Location)
    (object : FileObject) : Prop where
  found : tree.find? location = some object
  bare : tree.IsBare location
  gone : later.find? location = none
  others :
    ∀ other, other ≠ location →
      later.find? other = tree.find? other

theorem find?_others
    (objects : List (Location × FileObject)) :
    (others objects location).lookup location = none := by
  cases hFound : (others objects location).lookup location with
  | none => rfl
  | some object =>
      exact absurd
        (List.mem_map.2 ⟨_, mem_of_lookup hFound, rfl⟩)
        (not_mem_others objects location)

theorem loses_of_erase?
    (hFound : tree.find? location = some object)
    (hErase : tree.erase? location = some later) :
    tree.Loses later location object := by
  unfold erase? at hErase
  split at hErase
  · rename_i hChild
    cases hErase
    exact ⟨hFound, isBare_iff.2 hChild,
      find?_others tree.objects,
      fun _ hOther => lookup_others tree.objects hOther⟩
  · cases hErase

theorem exists_erase?_of_isBare
    (hBare : tree.IsBare location) :
    ∃ later, tree.erase? location = some later := by
  unfold erase?
  rw [dif_pos (isBare_iff.1 hBare)]
  exact ⟨_, rfl⟩

------------------------------------------------------------
-- Removing By Path
------------------------------------------------------------

variable {followsLast : Bool}
variable {directory : Location}
variable {path : String}

/- What a path leads to is there. -/
theorem object?_of_objectAt
    (hFound :
      tree.objectAt followsLast directory path =
        .ok (location, object)) :
    tree.object? location = some object := by
  unfold objectAt at hFound
  split at hFound
  · exact nomatch hFound
  · exact nomatch hFound
  · split at hFound
    · rename_i hObject
      cases hFound
      exact hObject
    · exact nomatch hFound

theorem look_of_objectAt
    (hFound :
      tree.objectAt false directory path =
        .ok (location, object)) :
    tree.look directory path = .ok object := by
  unfold look
  rw [hFound]
  rfl

/- What a directory holds is listed by a path that leads there. -/
theorem list_of_objectAt
    {data : DirectoryAttributes}
    (hFound :
      tree.objectAt true directory path =
        .ok (location, .directory data)) :
    tree.list directory path = .ok (tree.children location) := by
  unfold list
  rw [hFound]

/- An object other than a directory is not the root. -/
theorem ne_nil_of_objectAt
    (hFound :
      tree.objectAt followsLast directory path =
        .ok (location, object))
    (hObject : object.isDirectory = false) :
    location ≠ [] := by
  rintro rfl
  cases object?_of_objectAt hFound
  exact nomatch hObject

theorem removeDirectory_eq_ok_iff :
    tree.removeDirectory directory path = .ok later ↔
      ∃ location data,
        tree.objectAt false directory path =
          .ok (location, .directory data) ∧
        location ≠ [] ∧
        tree.erase? location = some later := by
  unfold removeDirectory
  constructor
  · intro hRemove
    split at hRemove
    · exact nomatch hRemove
    · rename_i location data hFound
      split at hRemove
      · exact nomatch hRemove
      · rename_i hSome
        split at hRemove
        · rename_i hErase
          cases hRemove
          rw [List.isEmpty_iff] at hSome
          exact ⟨location, data, hFound, hSome, hErase⟩
        · exact nomatch hRemove
    · exact nomatch hRemove
  · rintro ⟨location, data, hFound, hSome, hErase⟩
    rw [hFound]
    dsimp only
    rw [if_neg (by simpa using hSome), hErase]

theorem removeFile_eq_ok_iff :
    tree.removeFile directory path = .ok later ↔
      ∃ location object,
        tree.objectAt false directory path =
          .ok (location, object) ∧
        object.isDirectory = false ∧
        tree.erase? location = some later := by
  unfold removeFile
  constructor
  · intro hRemove
    split at hRemove
    · exact nomatch hRemove
    · exact nomatch hRemove
    · rename_i location object hOther hFound
      split at hRemove
      · rename_i hErase
        cases hRemove
        refine ⟨location, object, hFound, ?_, hErase⟩
        cases object with
        | directory data => exact (hOther data rfl).elim
        | file _ _ | symlink _ _ | special _ _ => rfl
      · exact nomatch hRemove
  · rintro ⟨location, object, hFound, hObject, hErase⟩
    rw [hFound]
    cases object with
    | directory _ => exact nomatch hObject
    | file _ _ | symlink _ _ | special _ _ =>
        dsimp only
        rw [hErase]

end FileTree

namespace DirectoryStore

variable {world : World}
variable {later : FileTree}
variable {path : String}
variable {location : Location}
variable {object known : FileObject}

/-
  Removing what a path leads to takes one object out of the
  tree.
-/
theorem loses_of_removeObject
    (hRemove : removeObject known path world = .ok later) :
    ∃ location object,
      world.tree.objectAt false world.directory path =
        .ok (location, object) ∧
      world.tree.Loses later location object := by
  unfold removeObject at hRemove
  split at hRemove
  · rcases FileTree.removeDirectory_eq_ok_iff.1 hRemove with
      ⟨location, data, hFound, hSome, hErase⟩
    have hObject := FileTree.object?_of_objectAt hFound
    rw [FileTree.object?_of_ne_nil hSome] at hObject
    exact ⟨location, _, hFound,
      FileTree.loses_of_erase? hObject hErase⟩
  · rcases FileTree.removeFile_eq_ok_iff.1 hRemove with
      ⟨location, object, hFound, hKind, hErase⟩
    have hObject := FileTree.object?_of_objectAt hFound
    rw [FileTree.object?_of_ne_nil
      (FileTree.ne_nil_of_objectAt hFound hKind)] at hObject
    exact ⟨location, object, hFound,
      FileTree.loses_of_erase? hObject hErase⟩

/- What holds nothing can be removed by its path. -/
theorem exists_of_removeObject
    (hFound :
      world.tree.objectAt false world.directory path =
        .ok (location, object))
    (hSome : location ≠ [])
    (hBare : world.tree.IsBare location) :
    ∃ later,
      removeObject object path world = .ok later ∧
      world.tree.Loses later location object := by
  rcases FileTree.exists_erase?_of_isBare hBare with
    ⟨later, hErase⟩
  have hObject := FileTree.object?_of_objectAt hFound
  rw [FileTree.object?_of_ne_nil hSome] at hObject
  refine ⟨later, ?_, FileTree.loses_of_erase? hObject hErase⟩
  unfold removeObject
  cases hKind : object.isDirectory with
  | false =>
      rw [if_neg Bool.false_ne_true]
      exact FileTree.removeFile_eq_ok_iff.2
        ⟨location, object, hFound, hKind, hErase⟩
  | true =>
      rw [if_pos rfl]
      cases object with
      | directory data =>
          exact FileTree.removeDirectory_eq_ok_iff.2
            ⟨location, data, hFound, hSome, hErase⟩
      | file _ _ | symlink _ _ | special _ _ =>
          exact nomatch hKind

end DirectoryStore

end TreeKeeper
