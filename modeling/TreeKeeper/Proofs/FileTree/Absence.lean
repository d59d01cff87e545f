import Mathlib.Logic.Relation
import TreeKeeper.Proofs.FileTree.Erasing

/-
  Paths that lead to no object.  A path is followed from piece
  to piece, and it ends where a piece names nothing, or where
  a piece with others behind it names something that is no
  directory.  What an object was removed from is a tree in
  which every path to the object ends where something is
  missing.

  Key definitions include:
    * `FileTree.Trail`
    * `FileTree.Leads`
    * `FileTree.Halts`
    * `FileTree.Meets`

  Main declarations:
    * `FileTree.exists_halts`
    * `FileTree.objectAt_eq_missing_iff`
    * `FileTree.objectAt_eq_notDirectory_iff`
    * `FileTree.objectAt_of_loses`
-/

------------------------------------------------------------
-- Trails
------------------------------------------------------------

namespace TreeKeeper

namespace FileTree

/-
  How far a path has been followed: how many links may still
  be followed, the directory that was reached, and the pieces
  ahead.
-/
structure Trail where
  links : Nat
  directory : Location
  ahead : List String

/- Whether a piece of a path is looked up in a directory. -/
structure IsLookedUp (piece : String) : Prop where
  not_trivial : ¬(piece = "" ∨ piece = ".")
  ne_parent : piece ≠ ".."
  size_le : piece.utf8ByteSize ≤ nameLimit

/- One step along a path, at whose end no link is followed. -/
inductive Leads (tree : FileTree) : Trail → Trail → Prop
| trivial
    {links : Nat}
    {directory : Location}
    {piece : String}
    {rest : List String}
    (hPiece : piece = "" ∨ piece = ".") :
    Leads tree ⟨links, directory, piece :: rest⟩
      ⟨links, directory, rest⟩
| parent
    {links : Nat}
    {directory : Location}
    {rest : List String} :
    Leads tree ⟨links, directory, ".." :: rest⟩
      ⟨links, directory.dropLast, rest⟩
| directory
    {links : Nat}
    {directory : Location}
    {piece : String}
    {rest : List String}
    {data : DirectoryAttributes}
    (hPiece : IsLookedUp piece)
    (hFound :
      tree.find? (directory ++ [piece]) =
        some (.directory data)) :
    Leads tree ⟨links, directory, piece :: rest⟩
      ⟨links, directory ++ [piece], rest⟩
| link
    {links : Nat}
    {directory : Location}
    {piece target : String}
    {rest : List String}
    {data : Attributes}
    (hPiece : IsLookedUp piece)
    (hFound :
      tree.find? (directory ++ [piece]) =
        some (.symlink data target))
    (hRest : rest ≠ []) :
    Leads tree ⟨links + 1, directory, piece :: rest⟩
      ⟨links, startOf directory target,
        piecesOf target ++ rest⟩

/- Where a trail ends, and what it leads to. -/
inductive Halts (tree : FileTree) :
    Trail → Except FileFault Place → Prop
| arrived
    {links : Nat}
    {directory : Location} :
    Halts tree ⟨links, directory, []⟩ (.ok (.here directory))
| long
    {links : Nat}
    {directory : Location}
    {piece : String}
    {rest : List String}
    (hTrivial : ¬(piece = "" ∨ piece = "."))
    (hParent : piece ≠ "..")
    (hSize : nameLimit < piece.utf8ByteSize) :
    Halts tree ⟨links, directory, piece :: rest⟩
      (.error .nameTooLong)
| absent
    {links : Nat}
    {directory : Location}
    {piece : String}
    (hPiece : IsLookedUp piece)
    (hFound : tree.find? (directory ++ [piece]) = none) :
    Halts tree ⟨links, directory, [piece]⟩
      (.ok (.absent directory piece))
| missing
    {links : Nat}
    {directory : Location}
    {piece : String}
    {rest : List String}
    (hPiece : IsLookedUp piece)
    (hFound : tree.find? (directory ++ [piece]) = none)
    (hRest : rest ≠ []) :
    Halts tree ⟨links, directory, piece :: rest⟩
      (.error .missing)
| object
    {links : Nat}
    {directory : Location}
    {piece : String}
    {object : FileObject}
    (hPiece : IsLookedUp piece)
    (hFound :
      tree.find? (directory ++ [piece]) = some object)
    (hObject : object.isDirectory = false) :
    Halts tree ⟨links, directory, [piece]⟩
      (.ok (.here (directory ++ [piece])))
| blocked
    {links : Nat}
    {directory : Location}
    {piece : String}
    {rest : List String}
    {object : FileObject}
    (hPiece : IsLookedUp piece)
    (hFound :
      tree.find? (directory ++ [piece]) = some object)
    (hObject : object.isDirectory = false)
    (hTarget : object.target? = none)
    (hRest : rest ≠ []) :
    Halts tree ⟨links, directory, piece :: rest⟩
      (.error .notDirectory)
| exhausted
    {directory : Location}
    {piece target : String}
    {rest : List String}
    {data : Attributes}
    (hPiece : IsLookedUp piece)
    (hFound :
      tree.find? (directory ++ [piece]) =
        some (.symlink data target))
    (hRest : rest ≠ []) :
    Halts tree ⟨0, directory, piece :: rest⟩
      (.error .tooManyLinks)

variable {tree later : FileTree}
variable {trail next : Trail}
variable {result : Except FileFault Place}

/- Where a walk along a trail leads. -/
def Trail.walk
    (trail : Trail)
    (tree : FileTree) : Except FileFault Place :=
  tree.walk false trail.links trail.directory trail.ahead

/- How a piece that is looked up is followed. -/
theorem advance_of_isLookedUp
    {piece : String}
    (hPiece : IsLookedUp piece)
    (tree : FileTree)
    (directory : Location)
    (rest : List String) :
    tree.advance false directory (piece :: rest) =
      match tree.find? (directory ++ [piece]) with
      | none =>
          if rest.isEmpty then .ok (.absent directory piece)
          else .error .missing
      | some (.directory _) =>
          tree.advance false (directory ++ [piece]) rest
      | some (.file ..) =>
          if rest.isEmpty then
            .ok (.here (directory ++ [piece]))
          else .error .notDirectory
      | some (.symlink _ target) =>
          if rest.isEmpty && !false then
            .ok (.here (directory ++ [piece]))
          else .ok (.link directory target rest)
      | some (.special ..) =>
          if rest.isEmpty then
            .ok (.here (directory ++ [piece]))
          else .error .notDirectory := by
  rewrite [advance, if_neg hPiece.not_trivial,
    if_neg hPiece.ne_parent,
    if_neg (Nat.not_lt.2 hPiece.size_le)]
  rfl

/- A step does not change where a walk leads. -/
theorem walk_of_leads
    (hLeads : tree.Leads trail next) :
    trail.walk tree = next.walk tree := by
  unfold Trail.walk
  cases hLeads with
  | trivial hPiece =>
      rw [walk_eq_resume, walk_eq_resume, advance,
        if_pos hPiece]
  | parent =>
      rw [walk_eq_resume, walk_eq_resume, advance,
        if_neg (by decide), if_pos rfl]
  | directory hPiece hFound =>
      rw [walk_eq_resume, walk_eq_resume,
        advance_of_isLookedUp hPiece, hFound]
  | link hPiece hFound hRest =>
      rw [walk_eq_resume, advance_of_isLookedUp hPiece, hFound]
      dsimp only
      rw [List.isEmpty_eq_false_iff.2 hRest]
      rfl

theorem walk_of_halts
    (hHalts : tree.Halts trail result) :
    trail.walk tree = result := by
  unfold Trail.walk
  rw [walk_eq_resume]
  cases hHalts with
  | arrived => rfl
  | long hTrivial hParent hSize =>
      rw [advance, if_neg hTrivial, if_neg hParent,
        if_pos hSize]
      rfl
  | absent hPiece hFound =>
      rw [advance_of_isLookedUp hPiece, hFound]
      rfl
  | missing hPiece hFound hRest =>
      rw [advance_of_isLookedUp hPiece, hFound]
      dsimp only
      rw [if_neg (by simpa using hRest)]
      rfl
  | @object links directory piece object hPiece hFound
      hObject =>
      rw [advance_of_isLookedUp hPiece, hFound]
      cases object with
      | directory _ => cases hObject
      | file _ _ | symlink _ _ | special _ _ => rfl
  | @blocked links directory piece rest object hPiece hFound
      hObject hTarget hRest =>
      rw [advance_of_isLookedUp hPiece, hFound]
      cases object with
      | directory _ => cases hObject
      | symlink _ _ => cases hTarget
      | file _ _ | special _ _ =>
          dsimp only
          rw [if_neg (by simpa using hRest)]
          rfl
  | exhausted hPiece hFound hRest =>
      rw [advance_of_isLookedUp hPiece, hFound]
      dsimp only
      rw [if_neg (by simpa using hRest)]
      rfl

/-
  By induction on the links that may still be followed, and
  below it on the pieces ahead.
-/
theorem exists_halts
    (tree : FileTree)
    (links : Nat)
    (directory : Location)
    (ahead : List String) :
    ∃ last result,
      Relation.ReflTransGen tree.Leads
        ⟨links, directory, ahead⟩ last ∧
      tree.Halts last result := by
  induction links using Nat.strongRecOn generalizing
      directory ahead with
  | ind links ihLinks =>
      induction ahead generalizing directory with
      | nil => exact ⟨_, _, .refl, .arrived⟩
      | cons piece rest ih =>
          have hStep {next : Trail}
              (hLeads : tree.Leads
                ⟨links, directory, piece :: rest⟩ next)
              (hNext : ∃ last result,
                Relation.ReflTransGen tree.Leads next last ∧
                  tree.Halts last result) :
              ∃ last result,
                Relation.ReflTransGen tree.Leads
                  ⟨links, directory, piece :: rest⟩ last ∧
                tree.Halts last result := by
            rcases hNext with ⟨last, result, hSteps, hLast⟩
            exact ⟨last, result, .head hLeads hSteps, hLast⟩
          by_cases hTrivial : piece = "" ∨ piece = "."
          · exact hStep (.trivial hTrivial) (ih directory)
          by_cases hParent : piece = ".."
          · subst hParent
            exact hStep .parent (ih directory.dropLast)
          by_cases hSize : nameLimit < piece.utf8ByteSize
          · exact ⟨_, _, .refl, .long hTrivial hParent hSize⟩
          have hPiece : IsLookedUp piece :=
            ⟨hTrivial, hParent, Nat.not_lt.1 hSize⟩
          cases hFound : tree.find? (directory ++ [piece]) with
          | none =>
              by_cases hRest : rest = []
              · subst hRest
                exact ⟨_, _, .refl, .absent hPiece hFound⟩
              · exact ⟨_, _, .refl,
                  .missing hPiece hFound hRest⟩
          | some object =>
              cases object with
              | directory _ =>
                  exact hStep (.directory hPiece hFound)
                    (ih (directory ++ [piece]))
              | file _ _ | special _ _ =>
                  by_cases hRest : rest = []
                  · subst hRest
                    exact ⟨_, _, .refl,
                      .object hPiece hFound rfl⟩
                  · exact ⟨_, _, .refl,
                      .blocked hPiece hFound rfl rfl hRest⟩
              | symlink _ _ =>
                  by_cases hRest : rest = []
                  · subst hRest
                    exact ⟨_, _, .refl,
                      .object hPiece hFound rfl⟩
                  cases links with
                  | zero =>
                      exact ⟨_, _, .refl,
                        .exhausted hPiece hFound hRest⟩
                  | succ links =>
                      exact hStep (.link hPiece hFound hRest)
                        (ihLinks links links.lt_succ_self _ _)

theorem walk_of_steps
    (hSteps : Relation.ReflTransGen tree.Leads trail next) :
    trail.walk tree = next.walk tree := by
  induction hSteps with
  | refl => rfl
  | tail _ hLeads ih => rw [ih, walk_of_leads hLeads]

/- A trail leads through directories. -/
theorem hasDirectory_of_leads
    (hDirectory : tree.hasDirectory trail.directory = true)
    (hLeads : tree.Leads trail next) :
    tree.hasDirectory next.directory = true := by
  cases hLeads with
  | trivial hPiece => exact hDirectory
  | parent => exact hasDirectory_parent hDirectory
  | directory hPiece hFound =>
      exact hasDirectory_iff.2
        ⟨_, (object?_concat _ _ _).trans hFound⟩
  | link hPiece hFound hRest =>
      exact hasDirectory_startOf _ hDirectory

theorem hasDirectory_of_steps
    (hDirectory : tree.hasDirectory trail.directory = true)
    (hSteps : Relation.ReflTransGen tree.Leads trail next) :
    tree.hasDirectory next.directory = true := by
  induction hSteps with
  | refl => exact hDirectory
  | tail _ hLeads ih => exact hasDirectory_of_leads ih hLeads

------------------------------------------------------------
-- What Is Met
------------------------------------------------------------

/-
  Whether following a location comes to a piece where there is
  a given object, or none, with other pieces behind it.
-/
def Meets
    (tree : FileTree)
    (location : Location)
    (found : Option FileObject)
    (rest : List String) : Prop :=
  ∃ links directory piece,
    Relation.ReflTransGen tree.Leads
      ⟨linkLimit, [], location⟩
      ⟨links, directory, piece :: rest⟩ ∧
    IsLookedUp piece ∧
    tree.find? (directory ++ [piece]) = found

variable {location place : Location}
variable {directory : Location}
variable {object : FileObject}
variable {path : String}

/- Names of directories lead on to the name behind them. -/
theorem meets_of_directory
    {front : Location}
    {name : String}
    (hFront : tree.hasDirectory front = true)
    (hNames : ∀ piece ∈ front ++ [name], IsLookedUp piece)
    (rest : Location) :
    tree.Meets (front ++ name :: rest)
      (tree.find? (front ++ [name])) rest := by
  rcases List.forall_mem_append.1 hNames with
    ⟨hLater, hName⟩
  have hSteps (done ahead : Location)
      (hAll : done ++ ahead = front) :
      Relation.ReflTransGen tree.Leads
        ⟨linkLimit, done, ahead ++ name :: rest⟩
        ⟨linkLimit, front, name :: rest⟩ := by
    induction ahead generalizing done with
    | nil =>
        rw [← hAll, List.append_nil]
        exact .refl
    | cons piece ahead ih =>
        have hNext : done ++ [piece] ++ ahead = front := by
          rw [← hAll, List.append_assoc]
          rfl
        have hPiece : IsLookedUp piece :=
          hLater piece (by rw [← hAll]; simp)
        have hThere :
            tree.hasDirectory (done ++ [piece]) = true := by
          by_cases hAhead : ahead = []
          · rw [hAhead, List.append_nil] at hNext
            rw [hNext]
            exact hFront
          · rcases hasDirectory_iff.1 hFront with
              ⟨data, hListed⟩
            rw [← hNext, object?_append hAhead] at hListed
            exact hasDirectory_of_below hAhead hListed
        rcases hasDirectory_iff.1 hThere with ⟨data, hListed⟩
        rw [object?_concat] at hListed
        exact .head (.directory hPiece hListed) (ih _ hNext)
  exact ⟨linkLimit, front, name, hSteps [] front rfl,
    hName name List.mem_cons_self, rfl⟩

/- A text that is no path of the system leads nowhere. -/
theorem fitsPath_of_objectAt_eq_error
    {fault : FileFault}
    (hPath : path ≠ "")
    (hFault :
      tree.objectAt false directory path = .error fault)
    (hZero : fault ≠ .zeroInName)
    (hLong : fault ≠ .nameTooLong) :
    FitsPath path := by
  unfold objectAt locate at hFault
  rw [if_neg hPath] at hFault
  by_cases hText : path.toList.contains '\x00' = true
  · rw [if_pos hText] at hFault
    cases hFault
    exact absurd rfl hZero
  rw [if_neg hText] at hFault
  by_cases hSize : pathLimit < path.utf8ByteSize
  · rw [if_pos hSize] at hFault
    cases hFault
    exact absurd rfl hLong
  · exact ⟨Bool.eq_false_iff.2 hText, Nat.not_lt.1 hSize⟩

theorem pathOf_ne_empty
    (location : Location) :
    DirectoryStore.pathOf location ≠ "" := by
  intro hEmpty
  have hText :=
    Path.toList_ofNames (location.map String.toList)
  unfold DirectoryStore.pathOf at hEmpty
  rw [hEmpty] at hText
  exact nomatch hText

/- What is found where a trail ends. -/
def found
    (tree : FileTree) :
    Except FileFault Place →
      Except FileFault (Location × FileObject)
| .error fault => .error fault
| .ok (.absent _ _) => .error .missing
| .ok (.here location) =>
    match tree.object? location with
    | some object => .ok (location, object)
    | none => .error .missing

theorem eq_of_found
    {reached : Location}
    (hFound :
      tree.found (.ok (.here reached)) = .ok (place, object)) :
    reached = place := by
  unfold found at hFound
  dsimp only at hFound
  split at hFound
  · cases hFound
    rfl
  · exact nomatch hFound

/- The path of a location is followed name by name. -/
theorem objectAt_of_halts
    (hNamed : location.IsNamed)
    (hFits : FitsPath (DirectoryStore.pathOf location))
    (hSteps :
      Relation.ReflTransGen tree.Leads
        ⟨linkLimit, [], location⟩ trail)
    (hHalts : tree.Halts trail result)
    (directory : Location) :
    tree.objectAt false directory
        (DirectoryStore.pathOf location) =
      tree.found result := by
  have hWalk :
      tree.walk false linkLimit [] location = result :=
    (walk_of_steps hSteps).trans (walk_of_halts hHalts)
  unfold objectAt found
  rewrite [locate_pathOf hNamed hFits, hWalk]
  rcases result with fault | place
  · rfl
  · cases place <;> rfl

theorem exists_halts_of_objectAt
    (hNamed : location.IsNamed)
    (hFits : FitsPath (DirectoryStore.pathOf location))
    (tree : FileTree)
    (directory : Location) :
    ∃ last result,
      Relation.ReflTransGen tree.Leads
        ⟨linkLimit, [], location⟩ last ∧
      tree.Halts last result ∧
      tree.objectAt false directory
          (DirectoryStore.pathOf location) =
        tree.found result := by
  rcases exists_halts tree linkLimit [] location with
    ⟨last, result, hSteps, hLast⟩
  exact ⟨last, result, hSteps, hLast,
    objectAt_of_halts hNamed hFits hSteps hLast directory⟩

/- Where a trail arrives, and at what it ends, is something. -/
theorem exists_found_of_here
    (hSteps :
      Relation.ReflTransGen tree.Leads
        ⟨linkLimit, [], location⟩ trail)
    (hHalts : tree.Halts trail (.ok (.here place))) :
    ∃ object, tree.object? place = some object := by
  have hDirectory :
      tree.hasDirectory trail.directory = true :=
    hasDirectory_of_steps rfl hSteps
  cases hHalts with
  | arrived =>
      rcases hasDirectory_iff.1 hDirectory with
        ⟨data, hListed⟩
      exact ⟨_, hListed⟩
  | object hPiece hFound hObject =>
      exact ⟨_, (object?_concat _ _ _).trans hFound⟩

/- A path leads to nothing where its trail ends so. -/
theorem exists_halts_of_error
    {fault : FileFault}
    (hNamed : location.IsNamed)
    (hFits : FitsPath (DirectoryStore.pathOf location))
    (hFault :
      tree.objectAt false directory
          (DirectoryStore.pathOf location) =
        .error fault) :
    ∃ last result,
      Relation.ReflTransGen tree.Leads
        ⟨linkLimit, [], location⟩ last ∧
      tree.Halts last result ∧
      (result = .error fault ∨
        fault = .missing ∧
          ∃ parent name,
            result = .ok (.absent parent name)) := by
  rcases exists_halts_of_objectAt hNamed hFits tree
      directory with
    ⟨last, result, hSteps, hLast, hObject⟩
  rw [hFault] at hObject
  refine ⟨last, result, hSteps, hLast, ?_⟩
  rcases result with other | ⟨place | ⟨parent, name⟩⟩
  · cases hObject
    exact .inl rfl
  · rcases exists_found_of_here hSteps hLast with
      ⟨object, hThere⟩
    simp only [found, hThere] at hObject
    exact nomatch hObject
  · cases hObject
    exact .inr ⟨rfl, parent, name, rfl⟩

/- Nothing is found exactly where something is missing. -/
theorem objectAt_eq_missing_iff
    (hNamed : location.IsNamed) :
    tree.objectAt false directory
        (DirectoryStore.pathOf location) =
          .error .missing ↔
      FitsPath (DirectoryStore.pathOf location) ∧
        ∃ rest, tree.Meets location none rest := by
  constructor
  · intro hMissing
    have hFits :=
      fitsPath_of_objectAt_eq_error (pathOf_ne_empty location)
        hMissing nofun nofun
    rcases exists_halts_of_error hNamed hFits hMissing with
      ⟨last, result, hSteps, hLast,
        rfl | ⟨-, parent, name, rfl⟩⟩
    · cases hLast with
      | missing hPiece hNone hRest =>
          exact ⟨hFits, _, _, _, _, hSteps, hPiece, hNone⟩
    · cases hLast with
      | absent hPiece hNone =>
          exact ⟨hFits, _, _, _, _, hSteps, hPiece, hNone⟩
  · rintro ⟨hFits, rest, links, reached, piece, hSteps,
      hPiece, hNone⟩
    by_cases hRest : rest = []
    · subst hRest
      exact objectAt_of_halts hNamed hFits hSteps
        (.absent hPiece hNone) directory
    · exact objectAt_of_halts hNamed hFits hSteps
        (.missing hPiece hNone hRest) directory

/-
  An object with names behind it that is neither a directory
  nor a link to one is no directory.
-/
theorem objectAt_eq_notDirectory_iff
    (hNamed : location.IsNamed) :
    tree.objectAt false directory
        (DirectoryStore.pathOf location) =
          .error .notDirectory ↔
      FitsPath (DirectoryStore.pathOf location) ∧
        ∃ object rest,
          object.isDirectory = false ∧
          object.target? = none ∧
          rest ≠ [] ∧
          tree.Meets location (some object) rest := by
  constructor
  · intro hBlocked
    have hFits :=
      fitsPath_of_objectAt_eq_error (pathOf_ne_empty location)
        hBlocked nofun nofun
    rcases exists_halts_of_error hNamed hFits hBlocked with
      ⟨last, result, hSteps, hLast, rfl | ⟨hMissing, -⟩⟩
    · cases hLast with
      | blocked hPiece hFound hObject hTarget hRest =>
          exact ⟨hFits, _, _, hObject, hTarget, hRest, _, _,
            _, hSteps, hPiece, hFound⟩
    · exact nomatch hMissing
  · rintro ⟨hFits, object, rest, hObject, hTarget, hRest,
      links, reached, piece, hSteps, hPiece, hFound⟩
    exact objectAt_of_halts hNamed hFits hSteps
      (.blocked hPiece hFound hObject hTarget hRest) directory

------------------------------------------------------------
-- Behind A Removal
------------------------------------------------------------

/-
  A trail can be followed in a tree that has lost an object,
  up to where the object is looked up.
-/
theorem steps_or_missing
    (hLoses : tree.Loses later place object)
    (hSteps : Relation.ReflTransGen tree.Leads trail next) :
    Relation.ReflTransGen later.Leads trail next ∨
      ∃ links reached piece rest,
        Relation.ReflTransGen later.Leads trail
          ⟨links, reached, piece :: rest⟩ ∧
        IsLookedUp piece ∧
        later.find? (reached ++ [piece]) = none := by
  induction hSteps with
  | refl => exact .inl .refl
  | tail _ hLeads ih =>
      rcases ih with hSame | hMissing
      · cases hLeads with
        | trivial hPiece =>
            exact .inl (hSame.tail (.trivial hPiece))
        | parent => exact .inl (hSame.tail .parent)
        | @directory links reached piece rest _ hPiece
            hFound =>
            by_cases hPlace : reached ++ [piece] = place
            · exact .inr ⟨_, _, _, _, hSame, hPiece,
                hPlace ▸ hLoses.gone⟩
            · rw [← hLoses.others _ hPlace] at hFound
              exact .inl
                (hSame.tail (.directory hPiece hFound))
        | @link links reached piece target rest _ hPiece hFound
            hRest =>
            by_cases hPlace : reached ++ [piece] = place
            · exact .inr ⟨_, _, _, _, hSame, hPiece,
                hPlace ▸ hLoses.gone⟩
            · rw [← hLoses.others _ hPlace] at hFound
              exact .inl
                (hSame.tail (.link hPiece hFound hRest))
      · exact .inr hMissing

/- What a path led to is missing when it has been removed. -/
theorem objectAt_of_loses
    {other : FileObject}
    (hNamed : location.IsNamed)
    (hLoses : tree.Loses later place object)
    (hFound :
      tree.objectAt false directory
          (DirectoryStore.pathOf location) =
        .ok (place, other)) :
    later.objectAt false directory
        (DirectoryStore.pathOf location) =
      .error .missing := by
  have hFits := fitsPath_of_objectAt hFound
  have hSome : place ≠ [] :=
    (tree.nested _ (mem_of_lookup hLoses.found)).1
  rcases exists_halts_of_objectAt hNamed hFits tree
      directory with
    ⟨last, result, hSteps, hLast, hObject⟩
  rw [hFound] at hObject
  rcases steps_or_missing hLoses hSteps with
    hSame | ⟨links, reached, piece, rest, hMissing, hPiece,
      hNone⟩
  · cases hLast with
    | @arrived links reached =>
        obtain rfl : reached = place := eq_of_found hObject.symm
        rw [objectAt_of_halts hNamed hFits hSame .arrived]
        simp only [found, object?_of_ne_nil hSome, hLoses.gone]
    | @object links reached piece known hPiece hThere
        hKind =>
        have hPlace : reached ++ [piece] = place :=
          eq_of_found hObject.symm
        exact (objectAt_eq_missing_iff hNamed).2
          ⟨hFits, [], _, _, _, hSame, hPiece,
            hPlace ▸ hLoses.gone⟩
    | long => exact nomatch hObject
    | absent => exact nomatch hObject
    | missing => exact nomatch hObject
    | blocked => exact nomatch hObject
    | exhausted => exact nomatch hObject
  · exact (objectAt_eq_missing_iff hNamed).2
      ⟨hFits, rest, links, reached, piece, hMissing, hPiece,
        hNone⟩

end FileTree

end TreeKeeper
