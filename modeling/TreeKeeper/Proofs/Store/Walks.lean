import Mathlib.Data.List.Basic
import TreeKeeper.Proofs.FileTree.Visiting
import TreeKeeper.Proofs.Store.Places
import TreeKeeper.Proofs.Store.Selection

/-
  Walks through directory stores.  A walk from the root gives
  the objects at and below it, each of them once, in the order
  of a tour, where all of them can be looked at.  What cannot
  be looked at is left out.

  Key definitions include:
    * `DirectoryStore.Serves`
    * `Walk.ahead`

  Main declarations:
    * `DirectoryStore.Serves.objectAt`
    * `Walk.advance_ahead`
    * `Walk.gives_ahead`
    * `Walk.exists_tour_of_start`
    * `Walk.gives_of_unseen`
-/

------------------------------------------------------------
-- What A Store Serves
------------------------------------------------------------

namespace TreeKeeper

namespace DirectoryStore

/-
  Whether the root of a store leads to an object, where all
  objects below it have names and can be looked at by their
  paths.
-/
structure Serves
    (store : DirectoryStore)
    (tree : FileTree)
    (directory : Location)
    (root base : Location)
    (object : FileObject) : Prop where
  rooted : store.IsRootedAt root
  leads :
    tree.objectAt false directory (pathOf root) =
      .ok (base, object)
  named :
    ∀ names found,
      tree.find? (base ++ names) = some found →
        Location.IsNamed names
  readable :
    ∀ names found,
      tree.object? (base ++ names) = some found →
        (tree.look directory
          (pathOf (root ++ names))).isOk = true

/- A query starts a walk at the root. -/
theorem query_of_look
    {store : DirectoryStore}
    {world : World}
    {object : FileObject}
    (hLook :
      world.tree.look world.directory store.root =
        .ok object)
    (filter : Option Filter)
    (options : QueryOptions)
    (projection : Projection) :
    store.query filter options projection world =
      (.ok (Results.start (Walk.start store.root object)
          filter options projection world).1,
        (Results.start (Walk.start store.root object)
          filter options projection world).2) := by
  unfold DirectoryStore.query
  rw [hLook]

namespace Serves

variable {store : DirectoryStore}
variable {tree : FileTree}
variable {directory root base names : Location}
variable {object found : FileObject}

theorem object?_base
    (hServes :
      store.Serves tree directory root base object) :
    tree.object? base = some object :=
  FileTree.object?_of_objectAt hServes.leads

theorem isNamed
    (hServes :
      store.Serves tree directory root base object)
    (hFound : tree.object? (base ++ names) = some found) :
    names.IsNamed := by
  by_cases hNames : names = []
  · subst hNames
    exact .nil
  · rw [FileTree.object?_append hNames] at hFound
    exact hServes.named names found hFound

/- No link stands in front of an object. -/
theorem not_leavesBy
    (hFound : tree.object? (base ++ names) = some found) :
    ¬tree.LeavesBy base names := by
  rintro ⟨before, name, rest, _, target, rfl, hRest, hLink⟩
  rw [FileTree.object?_append (by simp)] at hFound
  have hSplit :
      base ++ (before ++ name :: rest) =
        base ++ before ++ [name] ++ rest := by
    simp
  rw [hSplit] at hFound
  have hDirectory :=
    FileTree.hasDirectory_of_below hRest hFound
  unfold FileTree.hasDirectory at hDirectory
  rw [FileTree.object?_concat, hLink] at hDirectory
  exact nomatch hDirectory

/- What has something below it is a directory, not a link. -/
theorem exists_mode_of_below
    (hServes :
      store.Serves tree directory root base object)
    (hNames : names ≠ [])
    (hFound : tree.find? (base ++ names) = some found) :
    ∃ data, object = .directory data := by
  rcases FileTree.hasDirectory_iff.1
      (FileTree.hasDirectory_of_below hNames hFound) with
    ⟨data, hListed⟩
  rw [hServes.object?_base] at hListed
  exact ⟨data, Option.some.inj hListed⟩

/-
  The path of an object below the root leads to it, and none
  of its names is too long.
-/
theorem objectAt_and_short
    (hServes :
      store.Serves tree directory root base object)
    (hFound : tree.object? (base ++ names) = some found) :
    tree.objectAt false directory (pathOf (root ++ names)) =
        .ok (base ++ names, found) ∧
      ∀ name ∈ names,
        name.utf8ByteSize ≤ FileTree.nameLimit := by
  by_cases hNames : names = []
  · subst hNames
    rw [List.append_nil, hServes.object?_base] at hFound
    cases hFound
    rw [List.append_nil, List.append_nil]
    exact ⟨hServes.leads, fun _ h => absurd h List.not_mem_nil⟩
  have hRoot := hServes.rooted.named
  have hReadable := hServes.readable names found hFound
  unfold FileTree.look at hReadable
  cases hLook :
      tree.objectAt false directory
        (pathOf (root ++ names)) with
  | error fault =>
      rw [hLook] at hReadable
      exact nomatch hReadable
  | ok known =>
      rcases known with ⟨place, other⟩
      rcases FileTree.exists_base_of_objectAt hRoot
          (hServes.isNamed hFound) hNames hLook with
        ⟨above, data, hAbove, hPlace⟩
      have hBelow :
          tree.find? (base ++ names) = some found := by
        rw [← hFound, FileTree.object?_append hNames]
      rcases hServes.exists_mode_of_below hNames hBelow with
        ⟨_, rfl⟩
      have hBase :=
        FileTree.objectAt_true hRoot hServes.leads rfl
      rw [hAbove] at hBase
      cases hBase
      rcases hPlace.resolve_right (not_leavesBy hFound) with
        ⟨rfl, hShort⟩
      have hSame := FileTree.object?_of_objectAt hLook
      rw [hFound] at hSame
      cases hSame
      exact ⟨rfl, hShort⟩

theorem objectAt
    (hServes :
      store.Serves tree directory root base object)
    (hFound : tree.object? (base ++ names) = some found) :
    tree.objectAt false directory (pathOf (root ++ names)) =
      .ok (base ++ names, found) :=
  (hServes.objectAt_and_short hFound).1

theorem look
    (hServes :
      store.Serves tree directory root base object)
    (hFound : tree.object? (base ++ names) = some found) :
    tree.look directory (pathOf (root ++ names)) =
      .ok found :=
  FileTree.look_of_objectAt (hServes.objectAt hFound)

/- A directory below the root is listed by its path. -/
theorem list
    {data : DirectoryAttributes}
    (hServes :
      store.Serves tree directory root base object)
    (hFound :
      tree.object? (base ++ names) =
        some (.directory data)) :
    tree.list directory (pathOf (root ++ names)) =
      .ok (tree.children (base ++ names)) :=
  FileTree.list_of_objectAt
    (FileTree.objectAt_true
      (hServes.rooted.named.append (hServes.isNamed hFound))
      (hServes.objectAt hFound) rfl)

/- The entry of an object is read again as it is. -/
theorem fresh
    {world : World}
    (hServes :
      store.Serves world.tree world.directory root base
        object)
    (hFound :
      world.tree.object? (base ++ names) = some found) :
    store.fresh (found.entry (pathOf names)) world =
      .ok (some (found.entry (pathOf names))) := by
  unfold DirectoryStore.fresh
  rw [resolve_pathOf hServes.rooted (hServes.isNamed hFound)
    rfl]
  unfold look?
  dsimp only
  rw [hServes.look hFound]
  rfl

theorem query
    {world : World}
    (hServes :
      store.Serves world.tree world.directory root base
        object)
    (filter : Option Filter)
    (options : QueryOptions)
    (projection : Projection) :
    store.query filter options projection world =
      (.ok (Results.start (Walk.start (pathOf root) object)
          filter options projection world).1,
        (Results.start (Walk.start (pathOf root) object)
          filter options projection world).2) := by
  rw [← hServes.rooted.root_eq]
  refine query_of_look ?_ filter options projection
  rw [hServes.rooted.root_eq]
  exact FileTree.look_of_objectAt hServes.leads

end Serves

------------------------------------------------------------
-- Paths Below The Root
------------------------------------------------------------

theorem join_pathOf
    {location : Location}
    {name : String}
    (hNamed : Location.IsNamed (location ++ [name])) :
    Path.join (pathOf location) name =
      pathOf (location ++ [name]) := by
  have hTexts := hNamed.toTexts
  rw [List.map_append, List.forall_mem_append] at hTexts
  unfold pathOf
  rw [Path.join_ofNames hTexts.1
    (hTexts.2 _ List.mem_cons_self), List.map_append]
  rfl

theorem relativeTo_pathOf
    {root names : Location}
    (hRoot : root.IsNamed)
    (hNamed : names.IsNamed) :
    Path.relativeTo (pathOf root) (pathOf (root ++ names)) =
      some (pathOf names) := by
  unfold pathOf
  rw [List.map_append]
  exact Path.relativeTo_ofNames hRoot.toTexts hNamed.toTexts

end DirectoryStore

------------------------------------------------------------
-- Listing A Directory
------------------------------------------------------------

namespace Walk

open DirectoryStore

variable {store : DirectoryStore}
variable {world : World}
variable {root base directory : Location}
variable {object : FileObject}

/- The entries of objects below a root. -/
def entriesOf
    (visited : List (Location × FileObject)) : List Entry :=
  visited.map fun v => v.2.entry (pathOf v.1)

/-
  A walk with some objects to hand out and some directories
  to list, by the names that lead to them from the root.
-/
def ahead
    (root : Location)
    (outputs : List (Location × FileObject))
    (directories : List Location) : Walk where
  root := pathOf root
  outputs := entriesOf outputs
  directories := directories.map fun d => pathOf (root ++ d)

/- What can be looked at is seen as it was listed. -/
theorem inspect_of_look
    {path : String}
    {children : List (String × FileObject)}
    (hLook : ∀ child ∈ children,
      world.tree.look world.directory
          (Path.join path child.1) =
        .ok child.2) :
    inspect path children world = (children, world) := by
  induction children with
  | nil => rfl
  | cons child children ih =>
      rcases List.forall_mem_cons.1 hLook with ⟨hChild, hLater⟩
      unfold inspect
      dsimp only
      rw [hChild, ih hLater]

section

variable
  (hServes :
    store.Serves world.tree world.directory root base object)

include hServes

/- The place and the path of an object in a directory. -/
theorem paths_of_mem_children
    {name : String}
    {child : FileObject}
    (hChild :
      (name, child) ∈
        world.tree.children (base ++ directory)) :
    world.tree.object? (base ++ (directory ++ [name])) =
        some child ∧
      Location.IsNamed (directory ++ [name]) ∧
      Path.join (pathOf (root ++ directory)) name =
        pathOf (root ++ (directory ++ [name])) := by
  rw [FileTree.mem_children_iff, List.append_assoc] at hChild
  have hNamed := hServes.named _ _ hChild
  refine ⟨?_, hNamed, ?_⟩
  · rw [FileTree.object?_append (by simp), hChild]
  · rw [join_pathOf, List.append_assoc]
    rw [List.append_assoc]
    exact hServes.rooted.named.append hNamed

theorem childEntries_sortChildren :
    childEntries (pathOf root) (pathOf (root ++ directory))
        (sortChildren
          (world.tree.children (base ++ directory))) =
      entriesOf
        (world.tree.childrenBelow base directory) := by
  unfold childEntries entriesOf FileTree.childrenBelow
  rw [List.map_map]
  refine List.filterMap_eq_map_iff_forall_eq_some.2
    fun child hChild => ?_
  rw [(FileTree.perm_sortChildren _).mem_iff] at hChild
  rcases paths_of_mem_children hServes hChild with
    ⟨_, hNamed, hJoin⟩
  rw [hJoin, relativeTo_pathOf hServes.rooted.named hNamed]
  rfl

theorem subdirectories_sortChildren :
    subdirectories (pathOf (root ++ directory))
        (sortChildren
          (world.tree.children (base ++ directory))) =
      (FileTree.directoriesOf
        (world.tree.childrenBelow base directory)).map
          fun d => pathOf (root ++ d) := by
  unfold subdirectories FileTree.directoriesOf
    FileTree.childrenBelow
  rw [List.filter_map, List.map_map, List.map_map]
  refine List.map_congr_left fun child hChild => ?_
  have hMember := (List.mem_filter.1 hChild).1
  rw [(FileTree.perm_sortChildren _).mem_iff] at hMember
  exact (paths_of_mem_children hServes hMember).2.2

/-
  Listing a directory puts its objects in front of those that
  are handed out, and its directories in front of the others.
-/
theorem list_ahead
    {data : DirectoryAttributes}
    {outputs : List (Location × FileObject)}
    {directories : List Location}
    (hDirectory :
      world.tree.object? (base ++ directory) =
        some (.directory data)) :
    Walk.list (ahead root outputs directories)
        (pathOf (root ++ directory)) world =
      (ahead root
        (world.tree.childrenBelow base directory ++ outputs)
        (FileTree.directoriesOf
            (world.tree.childrenBelow base directory) ++
          directories),
        world) := by
  have hInspect :
      inspect (pathOf (root ++ directory))
          (world.tree.children (base ++ directory)) world =
        (world.tree.children (base ++ directory), world) := by
    refine inspect_of_look ?_
    rintro ⟨name, child⟩ hChild
    rcases paths_of_mem_children hServes hChild with
      ⟨hFound, _, hJoin⟩
    rw [hJoin]
    exact hServes.look hFound
  unfold Walk.list
  rw [hServes.list hDirectory]
  dsimp only
  rw [hInspect]
  dsimp only
  unfold ahead
  dsimp only
  rw [childEntries_sortChildren hServes,
    subdirectories_sortChildren hServes, List.map_append]
  unfold entriesOf
  rw [List.map_append]

------------------------------------------------------------
-- Going On
------------------------------------------------------------

omit hServes in
/- What is there to be handed out is handed out. -/
theorem advance_cons
    (world : World)
    (steps : Nat)
    (output : Location × FileObject)
    (outputs : List (Location × FileObject))
    (directories : List Location) :
    Walk.advance steps
        (ahead root (output :: outputs) directories) world =
      (some (output.2.entry (pathOf output.1)),
        ahead root outputs directories, world) := by
  cases steps <;> rfl

/- What may be listed, and what that will give. -/
structure Lists
    (tree : FileTree)
    (base : Location)
    (directories : List Location)
    (visited : List (Location × FileObject)) : Prop where
  visits : tree.Visits base directories visited
  areDirectories :
    ∀ d ∈ directories, tree.hasDirectory (base ++ d) = true
  few : visited.length ≤ tree.objects.length

variable {visited : List (Location × FileObject)}
variable {directories : List Location}

omit hServes in
/- Directories that are listed make place for theirs. -/
theorem Lists.step
    {tree : FileTree}
    (hLists :
      Lists tree base (directory :: directories) visited) :
    ∃ later,
      visited = tree.childrenBelow base directory ++ later ∧
      Lists tree base
        (FileTree.directoriesOf
            (tree.childrenBelow base directory) ++
          directories) later := by
  rcases hLists with ⟨hVisits, hDirectories, hFew⟩
  cases hVisits with
  | @list _ _ later hLater =>
      refine ⟨later, rfl, hLater, ?_, ?_⟩
      · intro d hd
        rcases List.mem_append.1 hd with hChild | hOther
        · rcases FileTree.mem_directoriesOf_iff.1 hChild with
            ⟨data, hMember⟩
          rcases FileTree.mem_childrenBelow_iff.1 hMember with
            ⟨name, rfl, hFound⟩
          refine FileTree.hasDirectory_iff.2 ⟨data, ?_⟩
          rw [FileTree.object?_append (by simp), hFound]
        · exact hDirectories d (List.mem_cons_of_mem _ hOther)
      · rw [List.length_append] at hFew
        exact Nat.le_trans (Nat.le_add_left _ _) hFew

/-
  One step of a walk hands out the first of the objects that
  are ahead.  The induction is on the directories in front
  that turn out to be empty.
-/
theorem advance_ahead
    {steps : Nat}
    (outputs : List (Location × FileObject))
    (hLists : Lists world.tree base directories visited)
    (hSteps : directories.length < steps) :
    ∃ outputs' directories' visited',
      Walk.advance steps (ahead root outputs directories)
          world =
        ((entriesOf (outputs ++ visited)).head?,
          ahead root outputs' directories', world) ∧
      Lists world.tree base directories' visited' ∧
      outputs' ++ visited' = (outputs ++ visited).tail := by
  cases outputs with
  | cons output outputs =>
      exact ⟨outputs, directories, visited,
        advance_cons _ _ _ _ _, hLists, rfl⟩
  | nil =>
      induction directories generalizing steps visited with
      | nil =>
          have hVisited : visited = [] := by
            cases hLists.visits
            rfl
          subst hVisited
          refine ⟨[], [], [], ?_, hLists, rfl⟩
          cases steps <;> rfl
      | cons directory directories ih =>
          cases steps with
          | zero => exact nomatch hSteps
          | succ steps =>
              rcases hLists.step with ⟨later, rfl, hLater⟩
              rcases FileTree.hasDirectory_iff.1
                  (hLists.areDirectories directory
                    List.mem_cons_self) with
                ⟨data, hListed⟩
              have hAdvance :
                  Walk.advance (steps + 1)
                      (ahead root []
                        (directory :: directories)) world =
                    Walk.advance steps
                      (Walk.list (ahead root [] directories)
                        (pathOf (root ++ directory))
                        world).1
                      (Walk.list (ahead root [] directories)
                        (pathOf (root ++ directory))
                        world).2 := rfl
              rw [hAdvance, list_ahead hServes hListed,
                List.append_nil]
              dsimp only
              cases hChildren :
                  world.tree.childrenBelow base directory with
              | nil =>
                  rw [hChildren] at hLater
                  exact ih hLater
                    (Nat.lt_of_succ_lt_succ hSteps)
              | cons child children =>
                  rw [hChildren] at hLater
                  exact ⟨children, _, later,
                    advance_cons _ _ _ _ _, hLater, rfl⟩

theorem next_ahead
    (outputs : List (Location × FileObject))
    (hLists : Lists world.tree base directories visited) :
    ∃ outputs' directories' visited',
      Source.next (ahead root outputs directories) world =
        ((entriesOf (outputs ++ visited)).head?.map .ok,
          ahead root outputs' directories', world) ∧
      Lists world.tree base directories' visited' ∧
      outputs' ++ visited' = (outputs ++ visited).tail := by
  have hSteps :
      directories.length <
        (ahead root outputs directories).bound world + 1 := by
    unfold bound ahead
    simp only [List.length_map]
    omega
  rcases advance_ahead hServes outputs hLists hSteps with
    ⟨outputs', directories', visited', hAdvance, hLater⟩
  refine ⟨outputs', directories', visited', ?_, hLater⟩
  have hNext :
      Source.next (ahead root outputs directories) world =
        (ahead root outputs directories).next world := rfl
  rw [hNext]
  unfold Walk.next
  rw [hAdvance]

end

variable {visited : List (Location × FileObject)}
variable {directories : List Location}

/- What is ahead of a walk is no more than it expects. -/
theorem length_le_bound
    (root : Location)
    (outputs : List (Location × FileObject))
    (hLists : Lists world.tree base directories visited) :
    (outputs ++ visited).length ≤
      Source.bound (ahead root outputs directories) world := by
  have hBound :
      Source.bound (ahead root outputs directories) world =
        (entriesOf outputs).length +
          (directories.map fun d => pathOf (root ++ d)).length +
          world.tree.objects.length := rfl
  have hFew := hLists.few
  rw [hBound]
  unfold entriesOf
  simp only [List.length_append, List.length_map]
  omega

/-
  A walk gives what is ahead of it, as long as the tree stays
  as it is.  The induction is on the entries.
-/
theorem gives_ahead
    {tree : FileTree}
    {start : Location}
    (outputs : List (Location × FileObject))
    (hServes : store.Serves tree start root base object)
    (hLists : Lists tree base directories visited) :
    Source.Gives (fun later now => later = tree ∧ now = start)
      (Readings.ofEntries (entriesOf (outputs ++ visited))
        none)
      (ahead root outputs directories) := by
  generalize hAll : outputs ++ visited = all
  induction all generalizing outputs visited directories with
  | nil =>
      rintro world ⟨rfl, rfl⟩
      rcases next_ahead hServes outputs hLists with
        ⟨_, _, _, hNext, _⟩
      rw [hNext, hAll]
      rfl
  | cons first rest ih =>
      rintro world ⟨rfl, rfl⟩
      rcases next_ahead hServes outputs hLists with
        ⟨outputs', directories', visited', hNext, hLater,
          hRest⟩
      have hBound := length_le_bound root outputs hLists
      rw [hAll] at hNext hRest hBound
      have hLength :
          (Readings.ofEntries (entriesOf rest) none).length <
            Source.bound (ahead root outputs directories)
              world := by
        unfold Readings.ofEntries entriesOf
        simp only [List.length_append, List.length_map]
        exact hBound
      exact ⟨ahead root outputs' directories', world, hNext,
        ⟨rfl, rfl⟩, hLength, ih outputs' hLater hRest⟩

/- What is visited is no more than what there is. -/
theorem length_visited_le
    {tree : FileTree}
    (hVisits : tree.Visits base [[]] visited) :
    visited.length ≤ tree.objects.length := by
  have hNodup :=
    hVisits.nodup (List.pairwise_singleton FileTree.Apart [])
  have hPlaces :
      (visited.map fun v => (base ++ v.1, v.2)).Nodup := by
    unfold List.Nodup at hNodup ⊢
    rw [List.pairwise_map] at hNodup ⊢
    refine hNodup.imp fun {v w} hOther hSame => ?_
    exact hOther
      (List.append_cancel_left (Prod.mk.inj hSame).1)
  have hSubset :
      (visited.map fun v => (base ++ v.1, v.2)) ⊆
        tree.objects := by
    intro p hp
    rcases List.mem_map.1 hp with ⟨v, hMember, rfl⟩
    exact FileTree.mem_of_lookup
      (hVisits.mem_iff.1 hMember).1
  have hLength := hPlaces.length_le_of_subset hSubset
  rw [List.length_map] at hLength
  exact hLength

/- A walk that starts at the root gives a tour. -/
theorem exists_tour_of_start
    {tree : FileTree}
    {start : Location}
    (hServes : store.Serves tree start root base object) :
    ∃ tour, tree.IsTour base tour ∧
      Source.Gives
        (fun later now => later = tree ∧ now = start)
        (Readings.ofEntries (entriesOf tour) none)
        (Walk.start (pathOf root) object) := by
  rcases FileTree.exists_visits tree base [] with
    ⟨visited, hVisits⟩
  refine ⟨_, hVisits.isTour hServes.object?_base, ?_⟩
  have hStart :
      Walk.start (pathOf root) object =
        ahead root [([], object)]
          (if object.isDirectory then [[]] else []) := by
    unfold Walk.start ahead
    split
    · rw [List.map_cons, List.append_nil]
      rfl
    · rfl
  have hLists :
      Lists tree base
        (if object.isDirectory then [[]] else [])
        (if object.isDirectory then visited else []) := by
    split
    · rename_i hObject
      refine ⟨hVisits, ?_, length_visited_le hVisits⟩
      intro d hd
      rw [List.mem_singleton.1 hd, List.append_nil]
      unfold FileTree.hasDirectory
      rw [hServes.object?_base]
      exact hObject
    · exact ⟨.nil, fun _ h => absurd h List.not_mem_nil,
        Nat.zero_le _⟩
  rw [hStart]
  exact gives_ahead [([], object)] hServes hLists

------------------------------------------------------------
-- What Is Left Out
------------------------------------------------------------

/- What cannot be looked at is left out, with a warning. -/
theorem inspect_of_unseen
    {path : String}
    {children : List (String × FileObject)}
    (world : World)
    (hLook : ∀ child ∈ children,
      (world.tree.look world.directory
        (Path.join path child.1)).isOk = false) :
    (inspect path children world).1 = [] := by
  induction children generalizing world with
  | nil => rfl
  | cons child children ih =>
      rcases List.forall_mem_cons.1 hLook with ⟨hChild, hLater⟩
      unfold inspect
      dsimp only
      cases hSeen :
          world.tree.look world.directory
            (Path.join path child.1) with
      | error fault =>
          exact ih (world.warn _) hLater
      | ok object =>
          rw [hSeen] at hChild
          exact nomatch hChild

/- A walk ends where nothing in its root can be looked at. -/
theorem gives_of_unseen
    {tree : FileTree}
    {start : Location}
    {root : String}
    {data : DirectoryAttributes}
    {children : List (String × FileObject)}
    (hList : tree.list start root = .ok children)
    (hLook : ∀ child ∈ children,
      (tree.look start (Path.join root child.1)).isOk =
        false) :
    Source.Gives (fun later now => later = tree ∧ now = start)
      (Readings.ofEntries
        [(FileObject.directory data).entry "/"] none)
      (Walk.start root (.directory data)) := by
  have hEnd (later : World)
      (hTree : later.tree = tree)
      (hStart : later.directory = start) :
      (Walk.list ⟨root, [], []⟩ root later).1 =
        ⟨root, [], []⟩ := by
    have hInspect : (inspect root children later).1 = [] := by
      refine inspect_of_unseen later ?_
      rw [hTree, hStart]
      exact hLook
    unfold Walk.list
    rw [hTree, hStart, hList]
    dsimp only
    rw [hInspect]
    unfold sortChildren
    rw [List.mergeSort_nil]
    rfl
  rintro world ⟨rfl, rfl⟩
  have hBound :
      0 < Source.bound (Walk.start root (.directory data))
        world := by
    change 0 < 1 + 1 + world.tree.objects.length
    omega
  refine ⟨⟨root, [], [root]⟩, world, rfl, ⟨rfl, rfl⟩, hBound,
    ?_⟩
  rintro later ⟨hTree, hStart⟩
  have hNext :
      (Source.next (⟨root, [], [root]⟩ : Walk) later).1 =
        (Walk.advance
          ((⟨root, [], [root]⟩ : Walk).bound later)
          (Walk.list ⟨root, [], []⟩ root later).1
          (Walk.list ⟨root, [], []⟩ root later).2).1.map
            .ok :=
    rfl
  rw [hNext, hEnd later hTree hStart]
  cases (⟨root, [], [root]⟩ : Walk).bound later <;> rfl

end Walk

end TreeKeeper
