import Mathlib.Data.List.Induction
import TreeKeeper.Proofs.FileTree.Writing
import TreeKeeper.Proofs.Path.Names
import TreeKeeper.Store.Directory

/-
  Where paths below a directory lead.  The way to such a place
  is the way to the directory and then goes from name to name.
  It leaves the directory only through a symbolic link in
  front of another name.

  Key definitions include:
    * `Location.IsNamed`
    * `FileTree.followedBy`
    * `FileTree.onwards`
    * `FileTree.Passes`

  Main declarations:
    * `FileTree.walk_append`
    * `FileTree.passes_of_advance`
    * `FileTree.advance_of_find?`
    * `FileTree.fitsPath_pathOf_iff`
    * `FileTree.locate_pathOf`
    * `FileTree.walk_loops`
-/

------------------------------------------------------------
-- Locations Of Names
------------------------------------------------------------

namespace TreeKeeper

/- Whether all parts of a location are names. -/
def Location.IsNamed (location : Location) : Prop :=
  ∀ name ∈ location, Path.IsName name.toList

instance
    (location : Location) : Decidable location.IsNamed :=
  inferInstanceAs
    (Decidable
      (∀ name ∈ location, Path.IsName name.toList))

namespace Location.IsNamed

variable {first second : Location}

theorem nil : Location.IsNamed [] :=
  List.forall_mem_nil _

theorem append
    (hFirst : first.IsNamed)
    (hSecond : second.IsNamed) :
    Location.IsNamed (first ++ second) :=
  List.forall_mem_append.2 ⟨hFirst, hSecond⟩

theorem right
    (hAll : Location.IsNamed (first ++ second)) :
    second.IsNamed :=
  (List.forall_mem_append.1 hAll).2

/- The names of a location as texts are names. -/
theorem toTexts
    (hNamed : first.IsNamed) :
    ∀ n ∈ first.map String.toList, Path.IsName n := by
  intro n hn
  rcases List.mem_map.1 hn with ⟨name, hName, rfl⟩
  exact hNamed name hName

end Location.IsNamed

------------------------------------------------------------
-- Directories
------------------------------------------------------------

namespace FileTree

variable {tree : FileTree}
variable {location : Location}

theorem object?_of_ne_nil
    (hSome : location ≠ []) :
    tree.object? location = tree.find? location :=
  if_neg hSome

theorem object?_append
    {names : Location}
    (hNames : names ≠ [])
    (tree : FileTree)
    (base : Location) :
    tree.object? (base ++ names) = tree.find? (base ++ names) :=
  object?_of_ne_nil (List.append_ne_nil_of_right_ne_nil _ hNames)

theorem object?_concat
    (tree : FileTree)
    (directory : Location)
    (name : String) :
    tree.object? (directory ++ [name]) =
      tree.find? (directory ++ [name]) :=
  object?_append (List.cons_ne_nil _ _) tree directory

theorem hasDirectory_iff :
    tree.hasDirectory location = true ↔
      ∃ data,
        tree.object? location = some (.directory data) := by
  unfold hasDirectory
  cases tree.object? location with
  | none => simp
  | some object =>
      cases object <;> simp [FileObject.isDirectory]

/- The directory of a directory is one, too. -/
theorem hasDirectory_parent
    (hDirectory : tree.hasDirectory location = true) :
    tree.hasDirectory location.dropLast = true := by
  by_cases hNil : location = []
  · rw [hNil]
    rfl
  · rcases hasDirectory_iff.1 hDirectory with ⟨data, hFound⟩
    rw [object?_of_ne_nil hNil] at hFound
    exact (hasDirectory_dropLast hFound).2

/- Whatever has something below it is a directory. -/
theorem hasDirectory_of_below
    {object : FileObject}
    {names : Location}
    (hNames : names ≠ [])
    (hFound :
      tree.find? (location ++ names) = some object) :
    tree.hasDirectory location = true := by
  induction names using List.reverseRecOn generalizing
      object with
  | nil => exact absurd rfl hNames
  | append_singleton names name ih =>
      have hParent := (hasDirectory_dropLast hFound).2
      rw [← List.append_assoc, List.dropLast_concat]
        at hParent
      by_cases hNil : names = []
      · rw [hNil, List.append_nil] at hParent
        exact hParent
      · rcases hasDirectory_iff.1 hParent with ⟨data, hListed⟩
        rw [object?_append hNil] at hListed
        exact ih hNil hListed

------------------------------------------------------------
-- Pieces Behind Others
------------------------------------------------------------

/-
  Where pieces lead behind others: on from a directory, on
  from a link, or nowhere.
-/
def followedBy
    (tree : FileTree)
    (followsLast : Bool)
    (more : List String) :
    Except FileFault Stop → Except FileFault Stop
| .error fault => .error fault
| .ok (.absent _ _) => .error .missing
| .ok (.here location) =>
    if tree.hasDirectory location then
      tree.advance followsLast location more
    else .error .notDirectory
| .ok (.link directory target rest) =>
    .ok (.link directory target (rest ++ more))

variable {followsLast : Bool}
variable {links : Nat}
variable {directory base : Location}
variable {pieces more names : List String}

/- Links at the end are followed if pieces come behind them. -/
theorem advance_append
    (followsLast : Bool)
    (pieces : List String)
    (hDirectory : tree.hasDirectory directory = true)
    (hMore : more ≠ []) :
    tree.advance followsLast directory (pieces ++ more) =
      tree.followedBy followsLast more
        (tree.advance true directory pieces) := by
  induction pieces generalizing directory with
  | nil => exact (if_pos hDirectory).symm
  | cons piece rest ih =>
      have hRest : (rest ++ more).isEmpty = false := by
        simp [hMore]
      unfold advance
      rw [List.cons_append]
      dsimp only
      split
      · exact ih hDirectory
      split
      · exact ih (hasDirectory_parent hDirectory)
      split
      · rfl
      rw [hRest]
      cases hFound : tree.find? (directory ++ [piece]) with
      | none => cases rest <;> rfl
      | some object =>
          have hObject :
              tree.object? (directory ++ [piece]) =
                some object := by
            rw [object?_concat, hFound]
          cases object with
          | directory data =>
              exact ih (hasDirectory_iff.2 ⟨data, hObject⟩)
          | symlink _ _ =>
              cases rest <;> rfl
          | file _ _ | special _ _ =>
              have hEnd :
                  tree.hasDirectory (directory ++ [piece]) =
                    false := by
                unfold hasDirectory
                rw [hObject]
                rfl
              cases rest with
              | nil =>
                  unfold followedBy
                  simp [hEnd]
              | cons next rest => rfl

/- A walk stops at a link only in a directory. -/
theorem hasDirectory_of_link
    {target : String}
    (hDirectory : tree.hasDirectory directory = true)
    (hAdvance :
      tree.advance followsLast directory pieces =
        .ok (.link base target more)) :
    tree.hasDirectory base = true := by
  fun_induction tree.advance followsLast directory
      pieces with
  | case2 _ _ _ _ ih => exact ih hDirectory hAdvance
  | case3 _ _ _ ih =>
      exact ih (hasDirectory_parent hDirectory) hAdvance
  | case7 _ _ _ _ _ _ data hFound ih =>
      refine ih (hasDirectory_iff.2 ⟨data, ?_⟩) hAdvance
      rw [object?_concat, hFound]
  | case11 =>
      cases hAdvance
      exact hDirectory
  | _ => cases hAdvance

theorem hasDirectory_startOf
    (target : String)
    (hDirectory : tree.hasDirectory directory = true) :
    tree.hasDirectory (startOf directory target) = true := by
  unfold startOf
  split
  · rfl
  · exact hDirectory

/- How a walk goes on from where it gets without links. -/
def resume
    (tree : FileTree)
    (followsLast : Bool)
    (links : Nat) :
    Except FileFault Stop → Except FileFault Place
| .error fault => .error fault
| .ok (.here location) => .ok (.here location)
| .ok (.absent directory name) =>
    .ok (.absent directory name)
| .ok (.link directory target rest) =>
    match links with
    | 0 => .error .tooManyLinks
    | links + 1 =>
        tree.walk followsLast links
          (startOf directory target)
          (piecesOf target ++ rest)

theorem walk_eq_resume :
    tree.walk followsLast links directory pieces =
      tree.resume followsLast links
        (tree.advance followsLast directory pieces) := by
  unfold walk
  rcases tree.advance followsLast directory pieces with
    fault | stop
  · rfl
  · cases stop <;> rfl

/- Where pieces lead from where others have led. -/
def onwards
    (tree : FileTree)
    (followsLast : Bool)
    (links : Nat)
    (more : List String) :
    Except FileFault Place → Except FileFault Place
| .error fault => .error fault
| .ok (.absent _ _) => .error .missing
| .ok (.here location) =>
    if tree.hasDirectory location then
      tree.walk followsLast links location more
    else .error .notDirectory

/- Without a link, the pieces are followed by the others. -/
theorem resume_followedBy_here :
    tree.resume followsLast links
        (tree.followedBy followsLast more
          (.ok (.here base))) =
      tree.onwards followsLast links more
        (.ok (.here base)) := by
  unfold followedBy onwards
  dsimp only
  split
  · exact walk_eq_resume.symm
  · rfl

/-
  By induction on the links: each link that is met before the
  pieces are used up has the others behind it as well.
-/
theorem walk_append
    (tree : FileTree)
    (links : Nat)
    (pieces : List String)
    (hDirectory : tree.hasDirectory directory = true) :
    ∃ left, ∀ followsLast more, more ≠ [] →
      tree.walk followsLast links directory
          (pieces ++ more) =
        tree.onwards followsLast left more
          (tree.walk true links directory pieces) := by
  induction links using Nat.strongRecOn generalizing
      directory pieces with
  | ind links ih =>
      have hAppend (followsLast : Bool)
          (more : List String) (hMore : more ≠ []) :
          tree.walk followsLast links directory
              (pieces ++ more) =
            tree.resume followsLast links
              (tree.followedBy followsLast more
                (tree.advance true directory pieces)) := by
        rw [walk_eq_resume,
          advance_append followsLast pieces hDirectory hMore]
      rw [walk_eq_resume]
      cases hAdvance :
          tree.advance true directory pieces with
      | error fault =>
          refine ⟨0, fun followsLast more hMore => ?_⟩
          rw [hAppend _ _ hMore, hAdvance]
          rfl
      | ok stop =>
          cases stop with
          | here location =>
              refine ⟨links, fun followsLast more hMore => ?_⟩
              rw [hAppend _ _ hMore, hAdvance]
              exact resume_followedBy_here
          | absent parent name =>
              refine ⟨0, fun followsLast more hMore => ?_⟩
              rw [hAppend _ _ hMore, hAdvance]
              rfl
          | link parent target rest =>
              cases links with
              | zero =>
                  refine ⟨0, fun followsLast more hMore => ?_⟩
                  rw [hAppend _ _ hMore, hAdvance]
                  rfl
              | succ links =>
                  have hParent :=
                    hasDirectory_of_link hDirectory hAdvance
                  rcases ih links links.lt_succ_self
                      (piecesOf target ++ rest)
                      (hasDirectory_startOf target
                        hParent) with
                    ⟨left, hLeft⟩
                  refine ⟨left,
                    fun followsLast more hMore => ?_⟩
                  rw [hAppend _ _ hMore, hAdvance]
                  unfold followedBy resume
                  dsimp only
                  rw [← List.append_assoc]
                  exact hLeft followsLast more hMore

------------------------------------------------------------
-- From Name To Name
------------------------------------------------------------

/-
  Where names lead from a directory: to the place of the last
  of them, in front of it, or off through a link.
-/
inductive Passes
    (tree : FileTree)
    (followsLast : Bool)
    (base : Location)
    (names : Location) : Stop → Prop
| here : Passes tree followsLast base names
    (.here (base ++ names))
| absent
    {directory : Location}
    {name : String}
    (hPlace : directory ++ [name] = base ++ names) :
    Passes tree followsLast base names
      (.absent directory name)
| link
    {before rest : Location}
    {data : Attributes}
    {name target : String}
    (hNames : names = before ++ name :: rest)
    (hLink :
      tree.find? (base ++ before ++ [name]) =
        some (.symlink data target))
    (hRest : rest ≠ [] ∨ followsLast = true) :
    Passes tree followsLast base names
      (.link (base ++ before) target rest)

/- One step from a directory to what has a name in it. -/
theorem advance_name
    {name : String}
    (hName : Path.IsName name.toList)
    (rest : List String) :
    tree.advance followsLast directory (name :: rest) =
      if nameLimit < name.utf8ByteSize then
        .error .nameTooLong
      else
        match tree.find? (directory ++ [name]) with
        | none =>
            if rest.isEmpty then
              .ok (.absent directory name)
            else .error .missing
        | some (.directory _) =>
            tree.advance followsLast (directory ++ [name])
              rest
        | some (.file ..) =>
            if rest.isEmpty then
              .ok (.here (directory ++ [name]))
            else .error .notDirectory
        | some (.symlink _ target) =>
            if rest.isEmpty && !followsLast then
              .ok (.here (directory ++ [name]))
            else .ok (.link directory target rest)
        | some (.special ..) =>
            if rest.isEmpty then
              .ok (.here (directory ++ [name]))
            else .error .notDirectory := by
  have hTrivial : ¬(name = "" ∨ name = ".") := by
    rintro (rfl | rfl)
    · exact hName.ne_nil rfl
    · exact hName.ne_current rfl
  have hParent : name ≠ ".." := by
    rintro rfl
    exact hName.ne_parent rfl
  rw [advance, if_neg hTrivial]
  exact if_neg hParent

/- Names that follow another one lead on from its place. -/
theorem Passes.cons
    {stop : Stop}
    {name : String}
    {rest : Location}
    (hPasses :
      Passes tree followsLast (base ++ [name]) rest stop) :
    Passes tree followsLast base (name :: rest) stop := by
  have hShift (after : Location) :
      base ++ [name] ++ after = base ++ name :: after := by
    rw [List.append_assoc, List.singleton_append]
  cases hPasses with
  | here =>
      rw [hShift]
      exact .here
  | absent hPlace => exact .absent (hPlace.trans (hShift rest))
  | link hNames hLink hRest =>
      subst hNames
      rw [hShift] at hLink ⊢
      exact .link rfl hLink hRest

theorem passes_of_advance
    {stop : Stop}
    (hNamed : Location.IsNamed names)
    (hAdvance :
      tree.advance followsLast base names = .ok stop) :
    Passes tree followsLast base names stop := by
  induction names generalizing base with
  | nil =>
      cases hAdvance
      have hHere :
          Passes tree followsLast base []
            (.here (base ++ [])) := .here
      rw [List.append_nil] at hHere
      exact hHere
  | cons name rest ih =>
      rcases List.forall_mem_cons.1 hNamed with ⟨hName, hLater⟩
      rw [advance_name hName] at hAdvance
      split at hAdvance
      · exact nomatch hAdvance
      split at hAdvance
      · split at hAdvance
        · rename_i hEmpty
          cases hAdvance
          rw [List.isEmpty_iff.1 hEmpty]
          exact .absent rfl
        · exact nomatch hAdvance
      · exact .cons (ih hLater hAdvance)
      · split at hAdvance
        · rename_i hEmpty
          cases hAdvance
          rw [List.isEmpty_iff.1 hEmpty]
          exact .here
        · exact nomatch hAdvance
      · rename_i data target hLink
        split at hAdvance
        · rename_i hEmpty
          cases hAdvance
          rw [Bool.and_eq_true, List.isEmpty_iff] at hEmpty
          rw [hEmpty.1]
          exact .here
        · rename_i hMore
          cases hAdvance
          have hRest : rest ≠ [] ∨ followsLast = true := by
            simpa [Classical.or_iff_not_imp_left] using hMore
          have hPasses :
              Passes tree followsLast base ([] ++ name :: rest)
                (.link (base ++ []) target rest) :=
            .link rfl (by rw [List.append_nil, hLink]) hRest
          rw [List.append_nil] at hPasses
          exact hPasses
      · split at hAdvance
        · rename_i hEmpty
          cases hAdvance
          rw [List.isEmpty_iff.1 hEmpty]
          exact .here
        · exact nomatch hAdvance

/- Names of what is there lead to it, if none is too long. -/
theorem advance_of_find?
    {object : FileObject}
    (hNamed : Location.IsNamed names)
    (hShort : ∀ name ∈ names, name.utf8ByteSize ≤ nameLimit)
    (hNames : names ≠ [])
    (hFound : tree.find? (base ++ names) = some object)
    (hLast : followsLast = true → object.target? = none) :
    tree.advance followsLast base names =
      .ok (.here (base ++ names)) := by
  induction names generalizing base with
  | nil => exact absurd rfl hNames
  | cons name rest ih =>
      rcases List.forall_mem_cons.1 hNamed with ⟨hName, hLater⟩
      rcases List.forall_mem_cons.1 hShort with ⟨hSize, hSizes⟩
      rw [advance_name hName, if_neg (Nat.not_lt.2 hSize)]
      by_cases hRest : rest = []
      · subst hRest
        rw [hFound]
        cases object with
        | file _ _ => rfl
        | directory _ => rfl
        | special _ _ => rfl
        | symlink _ _ =>
            cases followsLast with
            | false => rfl
            | true => exact nomatch hLast rfl
      · rw [← List.singleton_append, ← List.append_assoc]
          at hFound
        rcases hasDirectory_iff.1
            (hasDirectory_of_below hRest hFound) with
          ⟨data, hListed⟩
        rw [object?_concat] at hListed
        rw [hListed]
        dsimp only
        rw [ih hLater hSizes hRest hFound, List.append_assoc,
          List.singleton_append]

/- No name on the way to a place is too long. -/
theorem short_of_advance
    (hNamed : Location.IsNamed names)
    (hAdvance :
      tree.advance followsLast base names =
        .ok (.here location)) :
    ∀ name ∈ names, name.utf8ByteSize ≤ nameLimit := by
  induction names generalizing base with
  | nil => exact fun _ h => absurd h List.not_mem_nil
  | cons name rest ih =>
      rcases List.forall_mem_cons.1 hNamed with ⟨hName, hLater⟩
      rw [advance_name hName] at hAdvance
      split at hAdvance
      · exact nomatch hAdvance
      rename_i hSize
      refine List.forall_mem_cons.2
        ⟨Nat.not_lt.1 hSize, ?_⟩
      split at hAdvance
      · split at hAdvance <;> exact nomatch hAdvance
      · exact ih hLater hAdvance
      · split at hAdvance
        · rename_i hEmpty
          rw [List.isEmpty_iff.1 hEmpty]
          exact fun _ h => absurd h List.not_mem_nil
        · exact nomatch hAdvance
      · split at hAdvance
        · rename_i hEmpty
          rw [Bool.and_eq_true, List.isEmpty_iff] at hEmpty
          rw [hEmpty.1]
          exact fun _ h => absurd h List.not_mem_nil
        · exact nomatch hAdvance
      · split at hAdvance
        · rename_i hEmpty
          rw [List.isEmpty_iff.1 hEmpty]
          exact fun _ h => absurd h List.not_mem_nil
        · exact nomatch hAdvance

------------------------------------------------------------
-- Paths Of Locations
------------------------------------------------------------

/- Whether the system takes a text as a path. -/
structure FitsPath (path : String) : Prop where
  no_zero : path.toList.contains '\x00' = false
  size_le : path.utf8ByteSize ≤ pathLimit

instance
    (path : String) : Decidable (FitsPath path) :=
  decidable_of_iff
    (path.toList.contains '\x00' = false ∧
      path.utf8ByteSize ≤ pathLimit)
    ⟨fun ⟨hZero, hSize⟩ => ⟨hZero, hSize⟩,
      fun ⟨hZero, hSize⟩ => ⟨hZero, hSize⟩⟩

/- What the system asks of the path of a place. -/
theorem fitsPath_pathOf_iff
    (hSome : location ≠ []) :
    FitsPath (DirectoryStore.pathOf location) ↔
      (∀ name ∈ location, '\x00' ∉ name.toList) ∧
        (location.map fun name =>
          name.utf8ByteSize + 1).sum ≤ pathLimit := by
  have hSpelled :
      DirectoryStore.pathOf location =
        Path.spelled (location.map String.toList) :=
    Path.ofNames_eq_spelled (List.map_eq_nil_iff.not.2 hSome)
  have hSize :
      (DirectoryStore.pathOf location).utf8ByteSize =
        (location.map fun name =>
          name.utf8ByteSize + 1).sum := by
    rw [hSpelled, Path.utf8ByteSize_spelled, List.map_map]
    congr 1
    refine List.map_congr_left fun name _ => ?_
    exact congrArg (fun text => text.utf8ByteSize + 1)
      String.ofList_toList
  have hZero :
      (DirectoryStore.pathOf location).toList.contains
          '\x00' = false ↔
        ∀ name ∈ location, '\x00' ∉ name.toList := by
    rw [hSpelled, Path.toList_spelled, Bool.eq_false_iff,
      ne_eq, List.contains_iff_mem]
    simp
  rw [← hZero, ← hSize]
  exact ⟨fun h => ⟨h.no_zero, h.size_le⟩,
    fun h => ⟨h.1, h.2⟩⟩

/- Empty pieces lead nowhere else. -/
theorem advance_empty
    (rest : List String) :
    tree.advance followsLast directory ("" :: rest) =
      tree.advance followsLast directory rest := by
  rw [advance, if_pos (Or.inl rfl)]

theorem advance_pathOf
    (hNamed : location.IsNamed) :
    tree.advance followsLast directory
        (piecesOf (DirectoryStore.pathOf location)) =
      tree.advance followsLast directory location := by
  have hPieces :
      Text.splitOn '/'
          (DirectoryStore.pathOf location).toList =
        [] :: if location.map String.toList = [] then [[]]
          else location.map String.toList := by
    unfold DirectoryStore.pathOf
    rw [Path.toList_ofNames,
      ← Path.splitOn_names hNamed.toTexts]
    rfl
  have hTexts :
      (location.map String.toList).map String.ofList =
        location := by
    rw [List.map_map]
    exact List.map_id'' (fun _ => String.ofList_toList) _
  unfold piecesOf
  rw [hPieces, List.map_cons]
  split
  · rename_i hNil
    rw [List.map_eq_nil_iff.1 hNil]
    exact advance_empty _
  · rw [hTexts]
    exact advance_empty _

/- Where the path of a location leads. -/
theorem locate_pathOf
    (hNamed : location.IsNamed)
    (hFits : FitsPath (DirectoryStore.pathOf location)) :
    tree.locate followsLast directory
        (DirectoryStore.pathOf location) =
      tree.walk followsLast linkLimit [] location := by
  have hStart :
      startOf directory (DirectoryStore.pathOf location) =
        [] :=
    if_pos (Path.isAbsolute_ofNames _)
  have hNonempty : DirectoryStore.pathOf location ≠ "" := by
    intro hEmpty
    have hText :=
      Path.toList_ofNames (location.map String.toList)
    unfold DirectoryStore.pathOf at hEmpty
    rw [hEmpty] at hText
    exact nomatch hText
  unfold locate
  rw [if_neg hNonempty, hFits.no_zero,
    if_neg Bool.false_ne_true,
    if_neg (Nat.not_lt.2 hFits.size_le), hStart]
  rw [walk_eq_resume, advance_pathOf hNamed,
    ← walk_eq_resume]

theorem fitsPath_of_objectAt
    {path : String}
    {found : Location × FileObject}
    (hFound :
      tree.objectAt followsLast directory path = .ok found) :
    FitsPath path := by
  unfold objectAt locate at hFound
  by_cases hEmpty : path = ""
  · rw [if_pos hEmpty] at hFound
    exact nomatch hFound
  rw [if_neg hEmpty] at hFound
  by_cases hZero : path.toList.contains '\x00' = true
  · rw [if_pos hZero] at hFound
    exact nomatch hFound
  rw [if_neg hZero] at hFound
  by_cases hLong : pathLimit < path.utf8ByteSize
  · rw [if_pos hLong] at hFound
    exact nomatch hFound
  · exact ⟨Bool.eq_false_iff.2 hZero, Nat.not_lt.1 hLong⟩

theorem objectAt_pathOf_iff
    {found : Location}
    {object : FileObject}
    (hNamed : location.IsNamed) :
    tree.objectAt followsLast directory
        (DirectoryStore.pathOf location) =
          .ok (found, object) ↔
      FitsPath (DirectoryStore.pathOf location) ∧
        tree.walk followsLast linkLimit [] location =
          .ok (.here found) ∧
        tree.object? found = some object := by
  constructor
  · intro hFound
    have hFits := fitsPath_of_objectAt hFound
    unfold objectAt at hFound
    rw [locate_pathOf hNamed hFits] at hFound
    refine ⟨hFits, ?_⟩
    cases hWalk :
        tree.walk followsLast linkLimit [] location with
    | error fault =>
        rw [hWalk] at hFound
        exact nomatch hFound
    | ok place =>
        rw [hWalk] at hFound
        cases place with
        | absent parent name => exact nomatch hFound
        | here other =>
            dsimp only at hFound
            cases hObject : tree.object? other with
            | none =>
                rw [hObject] at hFound
                exact nomatch hFound
            | some object =>
                rw [hObject] at hFound
                cases hFound
                exact ⟨rfl, hObject⟩
  · rintro ⟨hFits, hWalk, hObject⟩
    unfold objectAt
    rw [locate_pathOf hNamed hFits, hWalk]
    dsimp only
    rw [hObject]

/- Only a link at the end is followed when it is asked for. -/
theorem advance_true
    {stop : Stop}
    (hAdvance :
      tree.advance false directory pieces = .ok stop)
    (hStop : ∀ place data target,
      stop = .here place →
        tree.object? place ≠
          some (.symlink data target)) :
    tree.advance true directory pieces = .ok stop := by
  induction pieces generalizing directory with
  | nil => exact hAdvance
  | cons piece rest ih =>
      unfold advance at hAdvance ⊢
      split
      · rename_i hTrivial
        rw [if_pos hTrivial] at hAdvance
        exact ih hAdvance
      rename_i hTrivial
      rw [if_neg hTrivial] at hAdvance
      split
      · rename_i hParent
        rw [if_pos hParent] at hAdvance
        exact ih hAdvance
      rename_i hParent
      rw [if_neg hParent] at hAdvance
      split
      · rename_i hLong
        rw [if_pos hLong] at hAdvance
        exact hAdvance
      rename_i hLong
      rw [if_neg hLong] at hAdvance
      cases hFound : tree.find? (directory ++ [piece]) with
      | none =>
          rw [hFound] at hAdvance
          exact hAdvance
      | some object =>
          rw [hFound] at hAdvance
          cases object with
          | directory _ => exact ih hAdvance
          | file _ _ | special _ _ => exact hAdvance
          | symlink data target =>
              cases rest with
              | nil =>
                  cases hAdvance
                  refine absurd ?_
                    (hStop _ data target rfl)
                  rw [object?_concat, hFound]
              | cons next rest => exact hAdvance

theorem walk_true
    (hWalk :
      tree.walk false links directory pieces =
        .ok (.here location))
    (hPlace : ∀ data target,
      tree.object? location ≠
        some (.symlink data target)) :
    tree.walk true links directory pieces =
      .ok (.here location) := by
  have hAdvanced {stop : Stop} {links : Nat}
      (hResume :
        tree.resume false links (.ok stop) =
          .ok (.here location))
      (place : Location) (data : Attributes)
      (target : String) (hStop : stop = .here place) :
      tree.object? place ≠
        some (.symlink data target) := by
    subst hStop
    cases hResume
    exact hPlace data target
  induction links using Nat.strongRecOn generalizing
      directory pieces with
  | ind links ih =>
      rw [walk_eq_resume] at hWalk ⊢
      cases hStop : tree.advance false directory pieces with
      | error fault =>
          rw [hStop] at hWalk
          exact nomatch hWalk
      | ok stop =>
          rw [hStop] at hWalk
          rw [advance_true hStop (hAdvanced hWalk)]
          cases stop with
          | here place => exact hWalk
          | absent parent name => exact hWalk
          | link parent target rest =>
              cases links with
              | zero => exact nomatch hWalk
              | succ links =>
                  exact ih links links.lt_succ_self hWalk

/- The path of a location below another one is longer. -/
theorem FitsPath.above
    {root : Location}
    (hFits :
      FitsPath (DirectoryStore.pathOf (root ++ names))) :
    FitsPath (DirectoryStore.pathOf root) := by
  rcases Path.exists_ofNames_append
      (root.map String.toList) (names.map String.toList) with
    ⟨rest, hRest⟩
  have hPath :
      DirectoryStore.pathOf (root ++ names) =
        DirectoryStore.pathOf root ++ rest := by
    unfold DirectoryStore.pathOf
    rw [List.map_append, hRest]
  have hSize := hFits.size_le
  have hZero := hFits.no_zero
  rw [hPath, String.utf8ByteSize_append] at hSize
  rw [hPath, String.toList_append] at hZero
  refine ⟨?_, Nat.le_trans (Nat.le_add_right _ _) hSize⟩
  rw [Bool.eq_false_iff] at hZero ⊢
  intro hContains
  apply hZero
  rw [List.contains_iff_mem] at hContains ⊢
  exact List.mem_append_left _ hContains

/- A link in the middle of some names below a directory. -/
def LeavesBy
    (tree : FileTree)
    (base names : Location) : Prop :=
  ∃ before name rest data target,
    names = before ++ name :: rest ∧
    rest ≠ [] ∧
    tree.find? (base ++ before ++ [name]) =
      some (.symlink data target)

variable {root : Location}
variable {found : Location}
variable {object : FileObject}

/- What is no link is found with or without following it. -/
theorem objectAt_true
    (hNamed : location.IsNamed)
    (hFound :
      tree.objectAt false directory
          (DirectoryStore.pathOf location) =
        .ok (found, object))
    (hObject : object.target? = none) :
    tree.objectAt true directory
        (DirectoryStore.pathOf location) =
      .ok (found, object) := by
  rw [objectAt_pathOf_iff hNamed] at hFound ⊢
  refine ⟨hFound.1, walk_true hFound.2.1 ?_, hFound.2.2⟩
  intro data target hLink
  rw [hFound.2.2] at hLink
  cases hLink
  exact nomatch hObject

/-
  What a path below some place leads to: the place is that of
  a directory, and names lead on from there or leave it.
-/
theorem exists_base_of_objectAt
    (hRoot : root.IsNamed)
    (hNamed : Location.IsNamed names)
    (hNames : names ≠ [])
    (hFound :
      tree.objectAt false directory
        (DirectoryStore.pathOf (root ++ names)) =
          .ok (found, object)) :
    ∃ base data,
      tree.objectAt true directory
          (DirectoryStore.pathOf root) =
        .ok (base, .directory data) ∧
      (found = base ++ names ∧
          (∀ name ∈ names, name.utf8ByteSize ≤ nameLimit) ∨
        tree.LeavesBy base names) := by
  rw [objectAt_pathOf_iff (hRoot.append hNamed)] at hFound
  rcases hFound with ⟨hFits, hWalk, hObject⟩
  rcases walk_append tree linkLimit root
      (rfl : tree.hasDirectory [] = true) with
    ⟨left, hLeft⟩
  rw [hLeft false names hNames] at hWalk
  cases hRootWalk : tree.walk true linkLimit [] root with
  | error fault =>
      rw [hRootWalk] at hWalk
      exact nomatch hWalk
  | ok place =>
      rw [hRootWalk] at hWalk
      cases place with
      | absent parent name => exact nomatch hWalk
      | here base =>
          unfold onwards at hWalk
          dsimp only at hWalk
          split at hWalk
          · rename_i hBase
            rcases hasDirectory_iff.1 hBase with
              ⟨data, hListed⟩
            refine ⟨base, data,
              (objectAt_pathOf_iff hRoot).2
                ⟨hFits.above, hRootWalk, hListed⟩, ?_⟩
            rw [walk_eq_resume] at hWalk
            cases hAdvance : tree.advance false base names with
            | error fault =>
                rw [hAdvance] at hWalk
                exact nomatch hWalk
            | ok stop =>
                rw [hAdvance] at hWalk
                cases passes_of_advance hNamed hAdvance with
                | here =>
                    cases hWalk
                    exact .inl
                      ⟨rfl, short_of_advance hNamed hAdvance⟩
                | absent => exact nomatch hWalk
                | link hSplit hLink hRest =>
                    exact .inr ⟨_, _, _, _, _, hSplit,
                      by simpa using hRest, hLink⟩
          · exact nomatch hWalk

/- What lies below a directory is found below its path. -/
theorem objectAt_of_find?
    {base : Location}
    {data : DirectoryAttributes}
    (hRoot : root.IsNamed)
    (hNamed : Location.IsNamed names)
    (hNames : names ≠ [])
    (hShort : ∀ name ∈ names, name.utf8ByteSize ≤ nameLimit)
    (hFits : FitsPath (DirectoryStore.pathOf (root ++ names)))
    (hBase :
      tree.objectAt true directory
          (DirectoryStore.pathOf root) =
        .ok (base, .directory data))
    (hFound : tree.find? (base ++ names) = some object)
    (hLast : followsLast = true → object.target? = none) :
    tree.objectAt followsLast directory
        (DirectoryStore.pathOf (root ++ names)) =
      .ok (base ++ names, object) := by
  rcases (objectAt_pathOf_iff hRoot).1 hBase with
    ⟨_, hWalk, hListed⟩
  rcases walk_append tree linkLimit root
      (rfl : tree.hasDirectory [] = true) with
    ⟨left, hLeft⟩
  have hDirectory : tree.hasDirectory base = true :=
    hasDirectory_iff.2 ⟨data, hListed⟩
  rw [objectAt_pathOf_iff (hRoot.append hNamed)]
  refine ⟨hFits, ?_, ?_⟩
  · rw [hLeft followsLast names hNames, hWalk]
    unfold onwards
    dsimp only
    rw [if_pos hDirectory, walk_eq_resume,
      advance_of_find? hNamed hShort hNames hFound hLast]
    rfl
  · rw [object?_append hNames, hFound]

------------------------------------------------------------
-- Links That Lead Back
------------------------------------------------------------

/-
  A link to the directory that it lies in leads back there,
  and one link less is left.
-/
theorem walk_loop
    {attributes : Attributes}
    {name : String}
    {rest : List String}
    (hName : Path.IsName name.toList)
    (hShort : name.utf8ByteSize ≤ nameLimit)
    (hLink :
      tree.find? [name] = some (.symlink attributes "."))
    (hRest : rest ≠ []) :
    tree.walk false (links + 1) [] (name :: rest) =
      tree.walk false links [] rest := by
  have hStop :
      tree.advance false [] (name :: rest) =
        .ok (.link [] "." rest) := by
    rw [advance_name hName, if_neg (Nat.not_lt.2 hShort),
      List.nil_append, hLink]
    dsimp only
    rw [List.isEmpty_eq_false_iff.2 hRest]
    rfl
  have hDot :
      tree.advance false [] ("." :: rest) =
        tree.advance false [] rest := by
    rw [advance, if_pos (Or.inr rfl)]
  have hTarget :
      startOf [] "." = [] ∧ piecesOf "." = ["."] := by
    decide
  rw [walk_eq_resume, hStop]
  unfold resume
  dsimp only
  rw [hTarget.1, hTarget.2, walk_eq_resume,
    List.singleton_append, hDot, ← walk_eq_resume]

/- However often it is followed, it leads back there. -/
theorem walk_loops
    {attributes : Attributes}
    {name : String}
    {rest : List String}
    (hName : Path.IsName name.toList)
    (hShort : name.utf8ByteSize ≤ nameLimit)
    (hLink :
      tree.find? [name] = some (.symlink attributes "."))
    (hRest : rest ≠ [])
    (count : Nat) :
    tree.walk false (links + count) []
        (List.replicate count name ++ rest) =
      tree.walk false links [] rest := by
  induction count with
  | zero => rfl
  | succ count ih =>
      have hMore : List.replicate count name ++ rest ≠ [] :=
        List.append_ne_nil_of_right_ne_nil _ hRest
      rw [List.replicate_succ, List.cons_append,
        ← Nat.add_assoc, walk_loop hName hShort hLink hMore,
        ih]

end FileTree

end TreeKeeper
