import TreeKeeper.Proofs.Store.Walks

/-
  Removing what a store serves, one object after the other.
  If the way to the root does not lead through what is
  removed, each object can be removed as soon as all that it
  holds is gone.

  Key definitions include:
    * `FileTree.IsWithout`
    * `DirectoryStore.IsSteady`

  Main declarations:
    * `DirectoryStore.isSteady_of_objectAt`
    * `DirectoryStore.Serves.exists_remove`
-/

------------------------------------------------------------
-- Trees That Lack Objects
------------------------------------------------------------

namespace TreeKeeper

namespace FileTree

variable {tree later after : FileTree}
variable {gone : List Location}
variable {location : Location}
variable {object : FileObject}

/- Whether a tree has all objects of another but some. -/
def IsWithout
    (tree later : FileTree)
    (gone : List Location) : Prop :=
  ∀ location,
    later.find? location =
      if location ∈ gone then none else tree.find? location

theorem IsWithout.refl
    (tree : FileTree) : tree.IsWithout tree [] :=
  fun _ => (if_neg List.not_mem_nil).symm

/- One more object is lost. -/
theorem IsWithout.lose
    (hWithout : tree.IsWithout later gone)
    (hLoses : later.Loses after location object) :
    tree.IsWithout after (location :: gone) := by
  intro other
  by_cases hOther : other = location
  · subst hOther
    rw [hLoses.gone, if_pos List.mem_cons_self]
  · rw [hLoses.others other hOther, hWithout other]
    simp [hOther]

/- What held only lost objects holds nothing. -/
theorem IsWithout.isBare
    (hWithout : tree.IsWithout later gone)
    (hCleared : ∀ name found,
      tree.find? (location ++ [name]) = some found →
        location ++ [name] ∈ gone) :
    later.IsBare location := by
  intro name
  rw [hWithout]
  split
  · rfl
  · rename_i hThere
    cases hFound : tree.find? (location ++ [name]) with
    | none => rfl
    | some found =>
        exact absurd (hCleared name found hFound) hThere

end FileTree

------------------------------------------------------------
-- Steady Roots
------------------------------------------------------------

namespace DirectoryStore

variable {store : DirectoryStore}
variable {tree : FileTree}
variable {directory root base names : Location}
variable {object found : FileObject}

/-
  Whether the root of a store leads to the same object when
  objects at some locations are gone.
-/
def IsSteady
    (store : DirectoryStore)
    (tree : FileTree)
    (directory : Location)
    (places : Location → Prop) : Prop :=
  ∀ later gone,
    tree.IsWithout later gone →
    (∀ location ∈ gone, places location) →
      later.objectAt false directory store.root =
        tree.objectAt false directory store.root

/- The path of the root of a tree leads there. -/
theorem objectAt_nil
    (tree : FileTree)
    (followsLast : Bool)
    (directory : Location) :
    tree.objectAt followsLast directory (pathOf []) =
      .ok ([], FileTree.rootObject) :=
  rfl

/-
  A root that leads to its own location does so whatever is
  gone below it.
-/
theorem isSteady_of_objectAt
    {places : Location → Prop}
    (hRoot : store.IsRootedAt base)
    (hLeads :
      tree.objectAt false directory store.root =
        .ok (base, object))
    (hPlaces : ¬places base) :
    store.IsSteady tree directory places := by
  intro later gone hWithout hGone
  rw [hRoot.root_eq] at hLeads ⊢
  have hObject := FileTree.object?_of_objectAt hLeads
  by_cases hNil : base = []
  · subst hNil
    rfl
  have hHere : tree.find? base = some object := by
    rw [← FileTree.object?_of_ne_nil hNil, hObject]
  have hLater : later.find? base = some object := by
    rw [hWithout, if_neg fun hMember =>
      hPlaces (hGone base hMember), hHere]
  have hBelow :
      tree.objectAt false directory (pathOf ([] ++ base)) =
        .ok (base, object) := hLeads
  -- No link is on the way, since the way ends where it says.
  rcases FileTree.exists_base_of_objectAt .nil hRoot.named
      hNil hBelow with
    ⟨above, data, hAbove, hPlace⟩
  rw [objectAt_nil] at hAbove
  cases hAbove
  have hShort :=
    (hPlace.resolve_right (Serves.not_leavesBy hObject)).2
  have hSame :
      later.objectAt false directory (pathOf ([] ++ base)) =
        .ok ([] ++ base, object) :=
    FileTree.objectAt_of_find? .nil hRoot.named hNil hShort
      (FileTree.fitsPath_of_objectAt hBelow)
      (objectAt_nil later true directory) hLater nofun
  rw [hLeads]
  exact hSame

/-
  An object below the root can be removed as soon as all that
  it holds is gone.
-/
theorem Serves.exists_remove
    {world : World}
    {places : Location → Prop}
    {gone : List Location}
    (hServes :
      store.Serves tree world.directory root base object)
    (hSteady : store.IsSteady tree world.directory places)
    (hWithout : tree.IsWithout world.tree gone)
    (hGone : ∀ location ∈ gone, places location)
    (hNames : names ≠ [])
    (hFound : tree.find? (base ++ names) = some found)
    (hThere : base ++ names ∉ gone)
    (hCleared : ∀ name child,
      tree.find? (base ++ names ++ [name]) = some child →
        base ++ names ++ [name] ∈ gone) :
    ∃ later,
      store.remove (found.entry (pathOf names)) world =
        (.ok (), world.withTree later) ∧
      tree.IsWithout later ((base ++ names) :: gone) := by
  have hObject :
      tree.object? (base ++ names) = some found := by
    rw [FileTree.object?_append hNames, hFound]
  have hRoot := hServes.rooted
  have hNamed := hServes.isNamed hObject
  rcases hServes.objectAt_and_short hObject with
    ⟨hPlace, hShort⟩
  rcases hServes.exists_mode_of_below hNames hFound with
    ⟨data, rfl⟩
  have hNow :
      world.tree.find? (base ++ names) = some found := by
    rw [hWithout, if_neg hThere, hFound]
  have hLeads := hSteady world.tree gone hWithout hGone
  rw [hRoot.root_eq, hServes.leads] at hLeads
  have hBase :=
    FileTree.objectAt_true hRoot.named hLeads rfl
  have hPlaced :
      world.tree.objectAt false world.directory
          (pathOf (root ++ names)) =
        .ok (base ++ names, found) :=
    FileTree.objectAt_of_find? hRoot.named hNamed hNames
      hShort (FileTree.fitsPath_of_objectAt hPlace) hBase hNow
      nofun
  have hLook :
      look? (pathOf (root ++ names)) world =
        .ok (some found) := by
    unfold look?
    rw [FileTree.look_of_objectAt hPlaced]
  have hOther : pathOf (root ++ names) ≠ store.root := by
    rw [hRoot.root_eq]
    intro hSame
    have hEqual :=
      pathOf_injective (hRoot.named.append hNamed) hRoot.named
        hSame
    exact hNames (List.self_eq_append_right.1 hEqual.symm)
  rcases exists_of_removeObject hPlaced (by simp [hNames])
      (hWithout.isBare hCleared) with
    ⟨later, hRemove, hLoses⟩
  refine ⟨later, ?_, hWithout.lose hLoses⟩
  unfold remove
  rw [resolve_pathOf hRoot hNamed rfl]
  dsimp only
  rw [if_neg hOther, hLook]
  dsimp only
  rw [hRemove]

end DirectoryStore

end TreeKeeper
