import Mathlib.Data.List.Sort
import TreeKeeper.Proofs.FileTree.Walking

/-
  The order in which the objects below a directory are
  visited: first what it holds, by name, and then what its
  directories hold, one after the other.  Each object below
  the directory is visited once, behind its own directory and
  beside the others of that directory.

  Key definitions include:
    * `FileTree.childrenBelow`
    * `FileTree.directoriesOf`
    * `FileTree.Visits`
    * `FileTree.IsTour`

  Main declarations:
    * `FileTree.exists_visits`
    * `FileTree.Visits.mem_iff`
    * `FileTree.Visits.nodup`
    * `FileTree.Visits.isTour`
-/

------------------------------------------------------------
-- Children
------------------------------------------------------------

namespace TreeKeeper

namespace FileTree

variable {tree : FileTree}
variable {location base : Location}
variable {name : String}
variable {object : FileObject}

/- The name and the object, if it lies in a directory. -/
def childOf
    (location : Location)
    (p : Location × FileObject) :
    Option (String × FileObject) :=
  match p.1.getLast? with
  | some name =>
      if p.1.dropLast = location then some (name, p.2)
      else none
  | none => none

theorem childOf_eq_some_iff
    {p : Location × FileObject} :
    childOf location p = some (name, object) ↔
      p = (location ++ [name], object) := by
  rcases p with ⟨known, other⟩
  unfold childOf
  constructor
  · intro hChild
    split at hChild
    · rename_i last hLast
      split at hChild
      · rename_i hParent
        cases hChild
        rcases List.getLast?_eq_some_iff.1 hLast with
          ⟨front, hKnown⟩
        dsimp only at hKnown hParent
        rw [hKnown, List.dropLast_concat] at hParent
        rw [hKnown, hParent]
      · exact nomatch hChild
    · exact nomatch hChild
  · intro hPlace
    cases hPlace
    dsimp only
    rw [List.getLast?_concat, List.dropLast_concat]
    exact if_pos rfl

theorem children_eq_filterMap
    (tree : FileTree)
    (location : Location) :
    tree.children location =
      tree.objects.filterMap (childOf location) :=
  rfl

theorem mem_children_iff :
    (name, object) ∈ tree.children location ↔
      tree.find? (location ++ [name]) = some object := by
  rw [children_eq_filterMap, List.mem_filterMap]
  constructor
  · rintro ⟨p, hMember, hChild⟩
    rw [childOf_eq_some_iff.1 hChild] at hMember
    exact find?_of_mem hMember
  · intro hFound
    exact ⟨_, mem_of_lookup hFound,
      childOf_eq_some_iff.2 rfl⟩

/- The names in a directory are distinct. -/
theorem nodup_children
    (tree : FileTree)
    (location : Location) :
    ((tree.children location).map Prod.fst).Nodup := by
  have hDistinct := tree.distinct
  unfold List.Nodup at hDistinct ⊢
  rw [children_eq_filterMap]
  rw [List.pairwise_map] at hDistinct ⊢
  rw [List.pairwise_filterMap]
  refine hDistinct.imp fun {p q} hOther a hFirst b hSecond =>
    ?_
  rcases a with ⟨first, object⟩
  rcases b with ⟨second, other⟩
  rintro rfl
  rw [childOf_eq_some_iff.1 hFirst,
    childOf_eq_some_iff.1 hSecond] at hOther
  exact hOther rfl

theorem perm_sortChildren
    (children : List (String × FileObject)) :
    (Walk.sortChildren children).Perm children :=
  List.mergeSort_perm children _

/- Distinct names are sorted in ascending order. -/
theorem ascending_sortChildren
    {children : List (String × FileObject)}
    (hDistinct : (children.map Prod.fst).Nodup) :
    ((Walk.sortChildren children).map Prod.fst).Pairwise
      (· < ·) := by
  have hSorted :
      (Walk.sortChildren children).Pairwise
        fun a b => a.1 ≤ b.1 := by
    have hTrans :
        IsTrans (String × FileObject) fun a b => a.1 ≤ b.1 :=
      ⟨fun _ _ _ => String.le_trans⟩
    have hTotal :
        Std.Total fun a b : String × FileObject =>
          a.1 ≤ b.1 :=
      ⟨fun a b => String.le_total a.1 b.1⟩
    exact List.pairwise_mergeSort' _ children
  have hNodup :
      ((Walk.sortChildren children).map Prod.fst).Nodup :=
    ((perm_sortChildren children).map _).nodup_iff.2 hDistinct
  unfold List.Nodup at hNodup
  rw [List.pairwise_map] at hNodup ⊢
  refine hSorted.imp₂ (fun a b hLe hNe => ?_) hNodup
  exact Decidable.byContradiction fun hNot =>
    hNe (String.le_antisymm hLe (String.not_lt.1 hNot))

------------------------------------------------------------
-- Visiting
------------------------------------------------------------

/-
  What a directory below a location holds, by name, with the
  names that lead there from the location.
-/
def childrenBelow
    (tree : FileTree)
    (base directory : Location) :
    List (Location × FileObject) :=
  (Walk.sortChildren (tree.children (base ++ directory))).map
    fun child => (directory ++ [child.1], child.2)

/- The directories among some objects. -/
def directoriesOf
    (found : List (Location × FileObject)) :
    List Location :=
  (found.filter fun v => v.2.isDirectory).map Prod.fst

/-
  What is visited from some directories: the objects of the
  first one, and then what is visited from its directories
  and the others.
-/
inductive Visits
    (tree : FileTree)
    (base : Location) :
    List Location → List (Location × FileObject) → Prop
| nil : Visits tree base [] []
| list
    {directory : Location}
    {directories : List Location}
    {later : List (Location × FileObject)}
    (hLater :
      Visits tree base
        (directoriesOf (tree.childrenBelow base directory) ++
          directories)
        later) :
    Visits tree base (directory :: directories)
      (tree.childrenBelow base directory ++ later)

variable {directory names : Location}
variable {directories others : List Location}
variable {visited more : List (Location × FileObject)}

theorem mem_childrenBelow_iff :
    (names, object) ∈ tree.childrenBelow base directory ↔
      ∃ name, names = directory ++ [name] ∧
        tree.find? (base ++ names) = some object := by
  unfold childrenBelow
  rw [List.mem_map]
  constructor
  · rintro ⟨⟨name, found⟩, hChild, hPlace⟩
    cases hPlace
    rw [(perm_sortChildren _).mem_iff, mem_children_iff]
      at hChild
    rw [← List.append_assoc]
    exact ⟨name, rfl, hChild⟩
  · rintro ⟨name, rfl, hFound⟩
    rw [← List.append_assoc] at hFound
    exact ⟨(name, object),
      (perm_sortChildren _).mem_iff.2
        (mem_children_iff.2 hFound), rfl⟩

theorem mem_directoriesOf_iff :
    directory ∈ directoriesOf visited ↔
      ∃ data, (directory, .directory data) ∈ visited := by
  unfold directoriesOf
  rw [List.mem_map]
  constructor
  · rintro ⟨⟨place, object⟩, hMember, rfl⟩
    rw [List.mem_filter] at hMember
    cases object with
    | directory data => exact ⟨data, hMember.1⟩
    | file _ _ | symlink _ _ | special _ _ =>
        exact nomatch hMember.2
  · rintro ⟨data, hMember⟩
    exact ⟨_, List.mem_filter.2 ⟨hMember, rfl⟩, rfl⟩

theorem Visits.append
    (hFirst : Visits tree base directories visited)
    (hSecond : Visits tree base others more) :
    Visits tree base (directories ++ others)
      (visited ++ more) := by
  induction hFirst with
  | nil => exact hSecond
  | list hLater ih =>
      rw [List.append_assoc] at ih
      rw [List.append_assoc, List.cons_append]
      exact .list ih

/- No location in a tree is longer than some number. -/
theorem exists_depth
    (tree : FileTree) :
    ∃ depth, ∀ {location object},
      tree.find? location = some object →
        location.length ≤ depth := by
  have hList (objects : List (Location × FileObject)) :
      ∃ depth, ∀ p ∈ objects, p.1.length ≤ depth := by
    induction objects with
    | nil => exact ⟨0, fun _ h => absurd h List.not_mem_nil⟩
    | cons p rest ih =>
        rcases ih with ⟨depth, hRest⟩
        refine ⟨max p.1.length depth,
          List.forall_mem_cons.2 ⟨Nat.le_max_left _ _, ?_⟩⟩
        exact fun q hq =>
          Nat.le_trans (hRest q hq) (Nat.le_max_right _ _)
  rcases hList tree.objects with ⟨depth, hDepth⟩
  exact ⟨depth, fun hFound =>
    hDepth _ (mem_of_lookup hFound)⟩

/- What is visited from each of some directories. -/
theorem exists_visits_of_forall
    (hEach : ∀ directory ∈ directories,
      ∃ visited, Visits tree base [directory] visited) :
    ∃ visited, Visits tree base directories visited := by
  induction directories with
  | nil => exact ⟨[], .nil⟩
  | cons directory directories ih =>
      rcases List.forall_mem_cons.1 hEach with
        ⟨⟨first, hFirst⟩, hOthers⟩
      rcases ih hOthers with ⟨second, hSecond⟩
      exact ⟨first ++ second, hFirst.append hSecond⟩

/- By induction on how far objects lie below a directory. -/
theorem exists_visits_of_depth
    (depth : Nat)
    (hDepth : ∀ {names object},
      tree.find? (base ++ directory ++ names) = some object →
        names.length ≤ depth) :
    ∃ visited, Visits tree base [directory] visited := by
  induction depth generalizing directory with
  | zero =>
      have hNone :
          tree.childrenBelow base directory = [] := by
        refine List.eq_nil_iff_forall_not_mem.2 ?_
        rintro ⟨names, object⟩ hChild
        rcases mem_childrenBelow_iff.1 hChild with
          ⟨name, rfl, hFound⟩
        rw [← List.append_assoc] at hFound
        exact absurd (hDepth hFound) (by simp)
      have hVisits :
          Visits tree base [directory]
            (tree.childrenBelow base directory ++ []) := by
        refine .list ?_
        rw [hNone]
        exact .nil
      exact ⟨_, hVisits⟩
  | succ depth ih =>
      have hBelow :
          ∃ later, Visits tree base
            (directoriesOf
              (tree.childrenBelow base directory)) later := by
        refine exists_visits_of_forall fun child hChild => ?_
        rcases mem_directoriesOf_iff.1 hChild with
          ⟨data, hMember⟩
        rcases mem_childrenBelow_iff.1 hMember with
          ⟨name, rfl, -⟩
        refine ih fun {names object} hFound => ?_
        have hLength :=
          @hDepth (name :: names) object
            (by simpa using hFound)
        exact Nat.le_of_succ_le_succ hLength
      rcases hBelow with ⟨later, hLater⟩
      rw [← List.append_nil (directoriesOf _)] at hLater
      exact ⟨_, .list hLater⟩

theorem exists_visits
    (tree : FileTree)
    (base directory : Location) :
    ∃ visited, Visits tree base [directory] visited := by
  rcases exists_depth tree with ⟨depth, hDepth⟩
  refine exists_visits_of_depth depth fun hFound => ?_
  have hLength := hDepth hFound
  rw [List.length_append] at hLength
  exact Nat.le_trans (Nat.le_add_left _ _) hLength

------------------------------------------------------------
-- What Is Visited
------------------------------------------------------------

/- Directories in a directory are among its objects. -/
theorem mem_directoriesOf_childrenBelow
    (hDirectory :
      tree.hasDirectory (base ++ (directory ++ [name])) =
        true) :
    directory ++ [name] ∈
      directoriesOf (tree.childrenBelow base directory) := by
  rcases hasDirectory_iff.1 hDirectory with ⟨data, hFound⟩
  rw [object?_append (by simp)] at hFound
  exact mem_directoriesOf_iff.2
    ⟨data, mem_childrenBelow_iff.2 ⟨name, rfl, hFound⟩⟩

/- All that lies below the directories is visited. -/
theorem Visits.mem_iff
    (hVisits : Visits tree base directories visited) :
    (names, object) ∈ visited ↔
      tree.find? (base ++ names) = some object ∧
        ∃ directory ∈ directories, ∃ rest,
          rest ≠ [] ∧ names = directory ++ rest := by
  induction hVisits with
  | nil => simp
  | @list directory directories later hLater ih =>
      rw [List.mem_append, mem_childrenBelow_iff, ih]
      constructor
      · rintro (⟨name, rfl, hFound⟩ |
          ⟨hFound, place, hPlace, rest, hRest, rfl⟩)
        · exact ⟨hFound, directory, List.mem_cons_self, [name],
            List.cons_ne_nil _ _, rfl⟩
        · refine ⟨hFound, ?_⟩
          rcases List.mem_append.1 hPlace with hChild | hOther
          · rcases mem_directoriesOf_iff.1 hChild with
              ⟨data, hMember⟩
            rcases mem_childrenBelow_iff.1 hMember with
              ⟨name, rfl, -⟩
            exact ⟨directory, List.mem_cons_self,
              name :: rest, List.cons_ne_nil _ _, by simp⟩
          · exact ⟨place, List.mem_cons_of_mem _ hOther, rest,
              hRest, rfl⟩
      · rintro ⟨hFound, place, hPlace, rest, hRest, rfl⟩
        rcases List.mem_cons.1 hPlace with rfl | hOther
        · cases rest with
          | nil => exact absurd rfl hRest
          | cons name rest =>
              by_cases hLast : rest = []
              · subst hLast
                exact .inl ⟨name, rfl, hFound⟩
              · right
                have hSplit :
                    base ++ (place ++ name :: rest) =
                      base ++ (place ++ [name]) ++ rest := by
                  simp
                have hDirectory := hFound
                rw [hSplit] at hDirectory
                refine ⟨hFound, place ++ [name], ?_, rest,
                  hLast, by simp⟩
                exact List.mem_append_left _
                  (mem_directoriesOf_childrenBelow
                    (hasDirectory_of_below hLast hDirectory))
        · exact .inr ⟨hFound, place,
            List.mem_append_right _ hOther, rest, hRest, rfl⟩

/- Whether neither of two locations lies in the other. -/
def Apart (first second : Location) : Prop :=
  ¬first <+: second ∧ ¬second <+: first

/- The directories in a directory are apart. -/
theorem apart_childrenBelow
    (tree : FileTree)
    (base directory : Location) :
    (directoriesOf (tree.childrenBelow base
      directory)).Pairwise Apart := by
  have hDistinct :=
    ascending_sortChildren
      (nodup_children tree (base ++ directory))
  unfold directoriesOf childrenBelow
  rw [List.pairwise_map] at hDistinct ⊢
  refine List.Pairwise.filter _ ?_
  rw [List.pairwise_map]
  refine hDistinct.imp fun {a b} hLess => ?_
  have hOther : a.1 ≠ b.1 := by
    intro hSame
    rw [hSame] at hLess
    exact String.lt_irrefl _ hLess
  unfold Apart
  simp [hOther, hOther.symm]

/- What is apart from a directory is so from all in it. -/
theorem Apart.concat
    {other : Location}
    (hApart : Apart directory other)
    (name : String) :
    Apart (directory ++ [name]) other := by
  refine ⟨fun hPrefix => ?_, fun hPrefix => ?_⟩
  · exact hApart.1
      ((List.prefix_append directory [name]).trans hPrefix)
  · rcases List.prefix_concat_iff.1 hPrefix with hSame | hAbove
    · exact hApart.1
        (hSame ▸ List.prefix_append directory [name])
    · exact hApart.2 hAbove

/- What is left to be visited stays apart. -/
theorem apart_pending
    (hApart : (directory :: directories).Pairwise Apart) :
    (directoriesOf (tree.childrenBelow base directory) ++
      directories).Pairwise Apart := by
  rw [List.pairwise_cons] at hApart
  refine List.pairwise_append.2
    ⟨apart_childrenBelow tree base directory, hApart.2, ?_⟩
  intro child hChild other hOther
  rcases mem_directoriesOf_iff.1 hChild with ⟨data, hMember⟩
  rcases mem_childrenBelow_iff.1 hMember with ⟨name, rfl, -⟩
  exact (hApart.1 other hOther).concat name

theorem nodup_childrenBelow
    (tree : FileTree)
    (base directory : Location) :
    ((tree.childrenBelow base directory).map
      Prod.fst).Nodup := by
  have hDistinct :=
    ascending_sortChildren
      (nodup_children tree (base ++ directory))
  unfold List.Nodup childrenBelow
  rw [List.map_map, List.pairwise_map]
  rw [List.pairwise_map] at hDistinct
  refine hDistinct.imp fun {a b} hLess hSame => ?_
  have hNames : a.1 = b.1 := by simpa using hSame
  rw [hNames] at hLess
  exact String.lt_irrefl _ hLess

/- Nothing is visited twice. -/
theorem Visits.nodup
    (hVisits : Visits tree base directories visited)
    (hApart : directories.Pairwise Apart) :
    (visited.map Prod.fst).Nodup := by
  induction hVisits with
  | nil => exact List.nodup_nil
  | @list directory directories later hLater ih =>
      rw [List.map_append, List.nodup_append]
      refine ⟨nodup_childrenBelow tree base directory,
        ih (apart_pending hApart), ?_⟩
      intro names hChild names' hVisited
      rintro rfl
      rcases List.mem_map.1 hChild with
        ⟨⟨_, object⟩, hMember, rfl⟩
      rcases List.mem_map.1 hVisited with
        ⟨⟨place, other⟩, hOther, hSame⟩
      dsimp only at hSame
      subst hSame
      rcases mem_childrenBelow_iff.1 hMember with
        ⟨name, rfl, -⟩
      rcases hLater.mem_iff.1 hOther with
        ⟨-, above, hAbove, rest, hRest, hPlace⟩
      -- Whatever is above a child is above its directory.
      have hPrefix : above <+: directory := by
        have hLonger : above <+: directory ++ [name] :=
          hPlace ▸ List.prefix_append above rest
        rcases List.prefix_concat_iff.1 hLonger with
          hSelf | hHigher
        · rw [hSelf] at hPlace
          exact absurd (List.self_eq_append_right.1 hPlace)
            hRest
        · exact hHigher
      rcases List.mem_append.1 hAbove with hInside | hOutside
      · rcases mem_directoriesOf_iff.1 hInside with
          ⟨data, hFound⟩
        rcases mem_childrenBelow_iff.1 hFound with
          ⟨inner, rfl, -⟩
        exact absurd hPrefix.length_le (by simp)
      · exact (List.rel_of_pairwise_cons hApart
          hOutside).2 hPrefix

/- The objects of a directory are visited side by side. -/
theorem Visits.exists_children
    (hVisits : Visits tree base directories visited)
    (hDirectory :
      directory ∈ directories ++ directoriesOf visited) :
    ∃ before after,
      visited =
        before ++ tree.childrenBelow base directory ++
          after := by
  induction hVisits with
  | nil => exact absurd hDirectory List.not_mem_nil
  | @list other directories later hLater ih =>
      by_cases hSame : directory = other
      · subst hSame
        exact ⟨[], later, rfl⟩
      · have hPending :
            directory ∈
              directoriesOf (tree.childrenBelow base other) ++
                directories ++ directoriesOf later := by
          unfold directoriesOf at hDirectory ⊢
          simp only [List.filter_append, List.map_append,
            List.mem_append, List.mem_cons, hSame,
            false_or] at hDirectory ⊢
          tauto
        rcases ih hPending with ⟨before, after, hSplit⟩
        refine ⟨tree.childrenBelow base other ++ before,
          after, ?_⟩
        rw [hSplit]
        simp only [List.append_assoc]

/- The directory of an object is visited before, if at all. -/
theorem Visits.parent_first
    (hVisits : Visits tree base directories visited)
    {before after : List (Location × FileObject)}
    {v : Location × FileObject}
    (hSplit : visited = before ++ v :: after) :
    v.1.dropLast ∈ directories ++ directoriesOf before := by
  induction hVisits generalizing before with
  | nil => exact absurd hSplit (by simp)
  | @list directory directories later hLater ih =>
      -- What comes behind the objects of the directory.
      have hBehind
          {front : List (Location × FileObject)}
          (hFront : later = front ++ v :: after)
          (hBefore :
            before =
              tree.childrenBelow base directory ++ front) :
          v.1.dropLast ∈
            directory :: directories ++
              directoriesOf before := by
        have hParent := ih hFront
        rw [hBefore]
        unfold directoriesOf at hParent ⊢
        simp only [List.filter_append, List.map_append,
          List.mem_append, List.mem_cons] at hParent ⊢
        tauto
      rcases List.append_eq_append_iff.1 hSplit with
        ⟨front, hBefore, hFront⟩ | ⟨rest, hChildren, hRest⟩
      · exact hBehind hFront hBefore
      · cases rest with
        | nil =>
            rw [List.append_nil] at hChildren
            exact @hBehind [] hRest.symm
              (by rw [List.append_nil, hChildren])
        | cons child rest =>
            obtain rfl : v = child := (List.cons.inj hRest).1
            have hChild :
                (v.1, v.2) ∈
                  tree.childrenBelow base directory := by
              rw [hChildren]
              exact List.mem_append_right _
                List.mem_cons_self
            rcases mem_childrenBelow_iff.1 hChild with
              ⟨name, hPlace, -⟩
            rw [hPlace, List.dropLast_concat]
            exact List.mem_cons_self

------------------------------------------------------------
-- Tours
------------------------------------------------------------

/-
  A list of all objects at and below a location, with the
  names that lead there: each of them once, the location
  first, each other object behind its directory, and those of
  one directory side by side in the order of their names.
  Nothing is reached through a link.
-/
structure IsTour
    (tree : FileTree)
    (base : Location)
    (visited : List (Location × FileObject)) : Prop where
  complete :
    ∀ names object,
      (names, object) ∈ visited ↔
        tree.object? (base ++ names) = some object
  distinct : (visited.map Prod.fst).Nodup
  root_first : visited.head?.map Prod.fst = some []
  parent_first :
    ∀ before names object after,
      visited = before ++ (names, object) :: after →
      names ≠ [] →
        ∃ data,
          (names.dropLast, .directory data) ∈ before
  side_by_side :
    ∀ directory data,
      (directory, .directory data) ∈ visited →
        ∃ before, ∃ children : List (String × FileObject),
        ∃ after,
          visited =
            before ++
              children.map
                (fun child =>
                  (directory ++ [child.1], child.2)) ++
              after ∧
          (children.map Prod.fst).Pairwise (· < ·) ∧
          ∀ name object,
            (name, object) ∈ children ↔
              tree.find? (base ++ directory ++ [name]) =
                some object
  unlinked :
    ∀ above rest object,
      (above ++ rest, object) ∈ visited →
      rest ≠ [] →
        tree.hasDirectory (base ++ above) = true

/- What is visited from the location and its own object. -/
def tourFrom
    (object : FileObject)
    (visited : List (Location × FileObject)) :
    List (Location × FileObject) :=
  ([], object) :: if object.isDirectory then visited else []

/- Only a directory has something below it. -/
theorem find?_of_not_directory
    (hBase : tree.object? base = some object)
    (hObject : object.isDirectory = false)
    (hNames : names ≠ []) :
    tree.find? (base ++ names) = none := by
  cases hFound : tree.find? (base ++ names) with
  | none => rfl
  | some other =>
      have hDirectory := hasDirectory_of_below hNames hFound
      unfold hasDirectory at hDirectory
      rw [hBase] at hDirectory
      rw [Option.any_some, hObject] at hDirectory
      exact absurd hDirectory Bool.false_ne_true

theorem mem_tourFrom_iff
    (hBase : tree.object? base = some object)
    (hVisits : Visits tree base [[]] visited)
    {other : FileObject} :
    (names, other) ∈ tourFrom object visited ↔
      tree.object? (base ++ names) = some other := by
  have hBelow :
      (names, other) ∈ visited ↔
        names ≠ [] ∧
          tree.find? (base ++ names) = some other := by
    rw [hVisits.mem_iff]
    simp [and_comm]
  unfold tourFrom
  rw [List.mem_cons, Prod.mk.injEq]
  by_cases hNames : names = []
  · subst hNames
    rw [List.append_nil, hBase, Option.some.injEq]
    constructor
    · rintro (⟨-, hObject⟩ | hVisited)
      · exact hObject.symm
      · split at hVisited
        · exact absurd rfl (hBelow.1 hVisited).1
        · exact absurd hVisited List.not_mem_nil
    · exact fun hObject => .inl ⟨rfl, hObject.symm⟩
  · rw [object?_append hNames]
    cases hObject : object.isDirectory with
    | true =>
        rw [if_pos rfl, hBelow]
        simp [hNames]
    | false =>
        rw [find?_of_not_directory hBase hObject hNames]
        simp [hNames]

/- In a tour, each object stands behind its directory. -/
theorem Visits.parent_first_tourFrom
    {before after : List (Location × FileObject)}
    {other : FileObject}
    (hVisits : Visits tree base [[]] visited)
    (hSplit :
      tourFrom object visited =
        before ++ (names, other) :: after)
    (hNames : names ≠ []) :
    ∃ data, (names.dropLast, .directory data) ∈ before := by
  unfold tourFrom at hSplit
  cases before with
  | nil =>
      have hRoot := (List.cons.inj hSplit).1
      exact absurd (Prod.mk.inj hRoot).1.symm hNames
  | cons first before =>
      obtain ⟨rfl, hRest⟩ := List.cons.inj hSplit
      split at hRest
      · rename_i hObject
        have hParent := hVisits.parent_first hRest
        rw [List.mem_append, List.mem_singleton] at hParent
        rcases hParent with hRoot | hAbove
        · cases object with
          | directory data =>
              rw [hRoot]
              exact ⟨data, List.mem_cons_self⟩
          | file _ _ | symlink _ _ | special _ _ =>
              exact nomatch hObject
        · rcases mem_directoriesOf_iff.1 hAbove with
            ⟨data, hMember⟩
          exact ⟨data, List.mem_cons_of_mem _ hMember⟩
      · exact absurd hRest (by simp)

/- What a directory of a tour holds stands side by side. -/
theorem Visits.exists_children_tourFrom
    {directory : Location}
    {data : DirectoryAttributes}
    (hVisits : Visits tree base [[]] visited)
    (hMember :
      (directory, .directory data) ∈
        tourFrom object visited) :
    ∃ before after,
      tourFrom object visited =
        before ++ tree.childrenBelow base directory ++
          after := by
  unfold tourFrom at hMember ⊢
  cases hObject : object.isDirectory with
  | false =>
      rw [hObject, if_neg Bool.false_ne_true,
        List.mem_singleton] at hMember
      rw [← (Prod.mk.inj hMember).2] at hObject
      exact nomatch hObject
  | true =>
      rw [hObject, if_pos rfl] at hMember
      rw [if_pos rfl]
      have hPlace :
          directory ∈ [[]] ++ directoriesOf visited := by
        rcases List.mem_cons.1 hMember with hRoot | hVisited
        · rw [(Prod.mk.inj hRoot).1]
          exact List.mem_cons_self
        · exact List.mem_append_right _
            (mem_directoriesOf_iff.2 ⟨data, hVisited⟩)
      rcases hVisits.exists_children hPlace with
        ⟨before, after, hSplit⟩
      exact ⟨([], object) :: before, after,
        congrArg (([], object) :: ·) hSplit⟩

/- What is visited from a location makes a tour. -/
theorem Visits.isTour
    (hVisits : Visits tree base [[]] visited)
    (hBase : tree.object? base = some object) :
    tree.IsTour base (tourFrom object visited) where
  complete := fun _ _ => mem_tourFrom_iff hBase hVisits
  distinct := by
    have hRoot (other : FileObject) :
        ([], other) ∉ visited := by
      rw [hVisits.mem_iff]
      simp
    have hNodup :=
      hVisits.nodup (List.pairwise_singleton Apart [])
    unfold tourFrom
    rw [List.map_cons, List.nodup_cons]
    split
    · refine ⟨fun hMember => ?_, hNodup⟩
      rcases List.mem_map.1 hMember with
        ⟨⟨_, other⟩, hVisited, rfl⟩
      exact hRoot other hVisited
    · exact ⟨List.not_mem_nil, List.nodup_nil⟩
  root_first := rfl
  parent_first := fun _ _ _ _ =>
    hVisits.parent_first_tourFrom
  side_by_side := by
    intro directory data hMember
    rcases hVisits.exists_children_tourFrom hMember with
      ⟨before, after, hSplit⟩
    refine ⟨before,
      Walk.sortChildren
        (tree.children (base ++ directory)), after, hSplit,
      ascending_sortChildren (nodup_children tree _), ?_⟩
    intro name other
    rw [(perm_sortChildren _).mem_iff, mem_children_iff]
  unlinked := by
    intro above rest other hMember hRest
    have hFound := (mem_tourFrom_iff hBase hVisits).1 hMember
    rw [object?_append (by simp [hRest]),
      ← List.append_assoc] at hFound
    exact hasDirectory_of_below hRest hFound

end FileTree

end TreeKeeper
