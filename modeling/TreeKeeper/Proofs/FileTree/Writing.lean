import TreeKeeper.FileTree.Operations
import TreeKeeper.Proofs.Outcome

/-
  Writing files and reading them again.  Where a path leads
  does not depend on what files hold, and a new file is in the
  way of no path but its own, so what is written to a file is
  what is read at its path.

  Key definitions include:
    * `FileTree.Alike`
    * `FileTree.SameOutline`
    * `FileTree.Stop.withFile`

  Main declarations:
    * `FileTree.locate_congr`
    * `FileTree.find?_put?`
    * `FileTree.readText_eq_ok_iff`
    * `FileTree.locate_put?`
    * `FileTree.empty_of_createFile`
    * `FileTree.readText_appendText_of_createFile`
-/

------------------------------------------------------------
-- Outlines
------------------------------------------------------------

namespace TreeKeeper

namespace FileTree

/-
  Whether there is the same object in two places, or some
  file in each of them, or nothing.
-/
inductive Alike :
    Option FileObject → Option FileObject → Prop
| refl (found : Option FileObject) : Alike found found
| files
    (attributes attributes' : Attributes)
    (text text' : String) :
    Alike (some (.file attributes text))
      (some (.file attributes' text'))

/- Whether two trees differ in their files at most. -/
def SameOutline (first second : FileTree) : Prop :=
  ∀ location,
    Alike (first.find? location) (second.find? location)

variable {first second : FileTree}

theorem advance_congr
    (hSame : first.SameOutline second)
    (followsLast : Bool)
    (directory : Location)
    (pieces : List String) :
    first.advance followsLast directory pieces =
      second.advance followsLast directory pieces := by
  induction pieces generalizing directory with
  | nil => rfl
  | cons piece rest ih =>
      have hHere := hSame (directory ++ [piece])
      unfold advance
      rw [ih directory, ih directory.dropLast,
        ih (directory ++ [piece])]
      generalize first.find? (directory ++ [piece]) = found
        at hHere ⊢
      generalize second.find? (directory ++ [piece]) = other
        at hHere ⊢
      -- No case looks at what a file holds.
      cases hHere with
      | refl found => rfl
      | files => rfl

theorem walk_congr
    (hSame : first.SameOutline second)
    (followsLast : Bool)
    (links : Nat)
    (directory : Location)
    (pieces : List String) :
    first.walk followsLast links directory pieces =
      second.walk followsLast links directory pieces := by
  induction links generalizing directory pieces with
  | zero =>
      unfold walk
      rw [advance_congr hSame]
  | succ links ih =>
      unfold walk
      rw [advance_congr hSame]
      simp only [ih]

/- The way to a location is the same in both trees. -/
theorem locate_congr
    (hSame : first.SameOutline second)
    (followsLast : Bool)
    (directory : Location)
    (path : String) :
    first.locate followsLast directory path =
      second.locate followsLast directory path := by
  unfold locate
  rw [walk_congr hSame]

------------------------------------------------------------
-- Putting Files
------------------------------------------------------------

/- Other locations keep their objects. -/
theorem lookup_others
    (objects : List (Location × FileObject))
    {location other : Location}
    (hOther : other ≠ location) :
    (others objects location).lookup other =
      objects.lookup other := by
  induction objects with
  | nil => rfl
  | cons item rest ih =>
      rcases item with ⟨known, object⟩
      unfold others at ih ⊢
      by_cases hKnown : known = location
      · have hNot : (other == known) = false := by
          rw [hKnown]
          exact beq_false_of_ne hOther
        rw [List.filter_cons_of_neg (by simpa using hKnown),
          ih, List.lookup_cons, hNot]
      · rw [List.filter_cons_of_pos (by simpa using hKnown),
          List.lookup_cons, List.lookup_cons, ih]

theorem find?_put?
    {tree later : FileTree}
    {location : Location}
    {object : FileObject}
    (hPut : tree.put? location object = some later)
    (other : Location) :
    later.find? other =
      if other = location then some object
      else tree.find? other := by
  unfold put? at hPut
  split at hPut
  · cases hPut
    unfold find?
    dsimp only
    rw [List.lookup_cons]
    by_cases hOther : other = location
    · rw [if_pos hOther, beq_iff_eq.2 hOther]
    · rw [if_neg hOther, beq_false_of_ne hOther]
      exact lookup_others tree.objects hOther
  · exact nomatch hPut

/- What is listed at a location is found there. -/
theorem lookup_of_mem
    {objects : List (Location × FileObject)}
    {location : Location}
    {object : FileObject}
    (hDistinct : (objects.map Prod.fst).Nodup)
    (hMember : (location, object) ∈ objects) :
    objects.lookup location = some object := by
  induction objects with
  | nil => exact nomatch hMember
  | cons item rest ih =>
      rcases item with ⟨known, other⟩
      rw [List.map_cons, List.nodup_cons] at hDistinct
      rw [List.lookup_cons]
      rcases List.mem_cons.1 hMember with hHere | hRest
      · cases hHere
        rw [beq_self_eq_true]
      · have hOther : location ≠ known := by
          rintro rfl
          exact hDistinct.1 (List.mem_map.2 ⟨_, hRest, rfl⟩)
        rw [beq_false_of_ne hOther]
        exact ih hDistinct.2 hRest

variable {tree later : FileTree}
variable {location : Location}

theorem find?_of_mem
    {object : FileObject}
    (hMember : (location, object) ∈ tree.objects) :
    tree.find? location = some object :=
  lookup_of_mem tree.distinct hMember

/- Objects lie in directories. -/
theorem hasDirectory_dropLast
    {object : FileObject}
    (hFound : tree.find? location = some object) :
    location ≠ [] ∧
      tree.hasDirectory location.dropLast = true := by
  rcases tree.nested _ (mem_of_lookup hFound) with
    ⟨hRoot, hParent⟩
  refine ⟨hRoot, ?_⟩
  unfold hasDirectory object?
  by_cases hNil : location.dropLast = []
  · rw [if_pos hNil]
    rfl
  · rw [if_neg hNil]
    rcases hParent with hEmpty | ⟨parent, hMember, hIs⟩
    · exact absurd hEmpty hNil
    · rw [find?_of_mem hMember]
      exact hIs

/- A file can be put in place of another one. -/
theorem exists_put?_of_file
    {object : FileObject}
    (hFound : tree.find? location = some object)
    (hObject : object.isDirectory = false)
    (other : FileObject)
    (hOther : other.isDirectory = false) :
    ∃ later, tree.put? location other = some later := by
  rcases hasDirectory_dropLast hFound with ⟨hRoot, hParent⟩
  have hReplace : tree.mayReplace location other = true := by
    unfold mayReplace
    rw [List.all_eq_true]
    rintro ⟨known, old⟩ hMember
    by_cases hKnown : known = location
    · have hOld := find?_of_mem hMember
      rw [hKnown, hFound] at hOld
      cases hOld
      simp [hObject, hOther]
    · simp [hKnown]
  unfold put?
  rw [dif_pos ⟨hRoot, hParent, hReplace⟩]
  exact ⟨_, rfl⟩

/- Putting a file in place of another keeps the outline. -/
theorem sameOutline_put?
    {attributes attributes' : Attributes}
    {old text : String}
    (hFound :
      tree.find? location = some (.file attributes old))
    (hPut :
      tree.put? location (.file attributes' text) =
        some later) :
    tree.SameOutline later := by
  intro other
  rw [find?_put? hPut]
  by_cases hOther : other = location
  · rw [if_pos hOther, hOther, hFound]
    exact .files attributes attributes' old text
  · rw [if_neg hOther]
    exact .refl (tree.find? other)

------------------------------------------------------------
-- Writing Files
------------------------------------------------------------

variable {directory : Location}
variable {path old : String}

/- A text is read from the file that its path leads to. -/
theorem readText_eq_ok_iff :
    tree.readText directory path = .ok old ↔
      ∃ location attributes,
        tree.locate true directory path =
          .ok (.here location) ∧
        tree.find? location =
          some (.file attributes old) := by
  unfold readText objectAt object?
  constructor
  · intro hRead
    cases hLocate : tree.locate true directory path with
    | error fault =>
        rw [hLocate] at hRead
        exact nomatch hRead
    | ok place =>
        rw [hLocate] at hRead
        cases place with
        | absent parent name => exact nomatch hRead
        | here location =>
            dsimp only at hRead
            by_cases hRoot : location = []
            · rw [if_pos hRoot] at hRead
              exact nomatch hRead
            · rw [if_neg hRoot] at hRead
              cases hFound : tree.find? location with
              | none =>
                  rw [hFound] at hRead
                  exact nomatch hRead
              | some object =>
                  rw [hFound] at hRead
                  cases object with
                  | file attributes text =>
                      cases hRead
                      exact ⟨location, attributes, rfl,
                        hFound⟩
                  | directory attributes => exact nomatch hRead
                  | symlink attributes target =>
                      exact nomatch hRead
                  | special attributes kind =>
                      exact nomatch hRead
  · rintro ⟨location, attributes, hLocate, hFound⟩
    have hRoot : location ≠ [] :=
      (hasDirectory_dropLast hFound).1
    rw [hLocate]
    dsimp only
    rw [if_neg hRoot, hFound]

------------------------------------------------------------
-- New Files
------------------------------------------------------------

/-
  Where a walk stops when a file is put at a location: at the
  file if it stopped in front of it, or else as before.
-/
def Stop.withFile (location : Location) : Stop → Stop
| .absent parent name =>
    if parent ++ [name] = location then .here location
    else .absent parent name
| stop => stop

variable {followsLast : Bool}
variable {links : Nat} {pieces : List String}
variable {parent : Location} {name : String}
variable {attributes : Attributes}

/- Nothing is there where a walk finds nothing. -/
theorem find?_of_advance
    (hAdvance :
      tree.advance followsLast directory pieces =
        .ok (.absent parent name)) :
    tree.find? (parent ++ [name]) = none := by
  fun_induction tree.advance followsLast directory
      pieces with
  | case2 _ _ _ _ ih => exact ih hAdvance
  | case3 _ _ _ ih => exact ih hAdvance
  | case5 _ _ _ _ _ _ hNone =>
      cases hAdvance
      exact hNone
  | case7 _ _ _ _ _ _ _ _ ih => exact ih hAdvance
  | _ => exact nomatch hAdvance

/- Putting something where nothing is hides nothing. -/
theorem find?_put?_of_some
    {object found : FileObject}
    {other : Location}
    (hNone : tree.find? location = none)
    (hPut : tree.put? location object = some later)
    (hFound : tree.find? other = some found) :
    later.find? other = some found := by
  rw [find?_put? hPut, if_neg ?_, hFound]
  rintro rfl
  exact nomatch hNone.symm.trans hFound

/- A new file is in nobody's way but at its own place. -/
theorem advance_put?
    {stop : Stop}
    (hNone : tree.find? location = none)
    (hPut :
      tree.put? location (.file attributes old) = some later)
    (hAdvance :
      tree.advance followsLast directory pieces = .ok stop) :
    later.advance followsLast directory pieces =
      .ok (stop.withFile location) := by
  fun_induction tree.advance followsLast directory
      pieces with
  | case1 =>
      cases hAdvance
      rfl
  | case2 directory piece rest hBlank ih =>
      unfold advance
      rw [if_pos hBlank]
      exact ih hAdvance
  | case3 directory rest hBlank ih =>
      unfold advance
      rw [if_neg hBlank, if_pos rfl]
      exact ih hAdvance
  | case5 directory piece rest hBlank hUp hLong hAbsent
      hLast =>
      -- The walk ends in front of the new file or elsewhere.
      cases hAdvance
      unfold advance
      rw [if_neg hBlank, if_neg hUp, if_neg hLong,
        find?_put? hPut, Stop.withFile]
      by_cases hHere : directory ++ [piece] = location
      · simp [hHere, hLast]
      · simp [hHere, hLast, hAbsent]
  | case7 directory piece rest hBlank hUp hLong _ hFound ih =>
      unfold advance
      rw [if_neg hBlank, if_neg hUp, if_neg hLong,
        find?_put?_of_some hNone hPut hFound]
      exact ih hAdvance
  | case8 directory piece rest hBlank hUp hLong _ _ hFound
      hLast =>
      cases hAdvance
      unfold advance
      rw [if_neg hBlank, if_neg hUp, if_neg hLong,
        find?_put?_of_some hNone hPut hFound]
      exact if_pos hLast
  | case10 directory piece rest hBlank hUp hLong _ _ hFound
      hStays =>
      cases hAdvance
      unfold advance
      rw [if_neg hBlank, if_neg hUp, if_neg hLong,
        find?_put?_of_some hNone hPut hFound]
      exact if_pos hStays
  | case11 directory piece rest hBlank hUp hLong _ _ hFound
      hFollows =>
      cases hAdvance
      unfold advance
      rw [if_neg hBlank, if_neg hUp, if_neg hLong,
        find?_put?_of_some hNone hPut hFound]
      exact if_neg hFollows
  | case12 directory piece rest hBlank hUp hLong _ _ hFound
      hLast =>
      cases hAdvance
      unfold advance
      rw [if_neg hBlank, if_neg hUp, if_neg hLong,
        find?_put?_of_some hNone hPut hFound]
      exact if_pos hLast
  | _ => exact nomatch hAdvance

theorem find?_of_walk
    (hWalk :
      tree.walk followsLast links directory pieces =
        .ok (.absent parent name)) :
    tree.find? (parent ++ [name]) = none := by
  fun_induction tree.walk followsLast links directory
      pieces with
  | case1 => exact nomatch hWalk
  | case2 => exact nomatch hWalk
  | case3 _ _ _ _ _ hAdvance =>
      cases hWalk
      exact find?_of_advance hAdvance
  | case4 => exact nomatch hWalk
  | case5 _ _ _ _ _ _ _ ih => exact ih hWalk

/- The way to a new file leads to the file. -/
theorem walk_put?
    (hPut :
      tree.put? (parent ++ [name]) (.file attributes old) =
        some later)
    (hWalk :
      tree.walk followsLast links directory pieces =
        .ok (.absent parent name)) :
    later.walk followsLast links directory pieces =
      .ok (.here (parent ++ [name])) := by
  have hNone := find?_of_walk hWalk
  fun_induction tree.walk followsLast links directory
      pieces with
  | case1 => exact nomatch hWalk
  | case2 => exact nomatch hWalk
  | case3 _ _ _ _ _ hAdvance =>
      cases hWalk
      unfold walk
      rw [advance_put? hNone hPut hAdvance, Stop.withFile,
        if_pos rfl]
  | case4 => exact nomatch hWalk
  | case5 _ _ _ _ _ hAdvance _ ih =>
      unfold walk
      rw [advance_put? hNone hPut hAdvance]
      exact ih hWalk

theorem locate_put?
    (hPut :
      tree.put? (parent ++ [name]) (.file attributes old) =
        some later)
    (hLocate :
      tree.locate followsLast directory path =
        .ok (.absent parent name)) :
    later.locate followsLast directory path =
      .ok (.here (parent ++ [name])) := by
  unfold locate at hLocate ⊢
  split at hLocate
  · exact nomatch hLocate
  split at hLocate
  · exact nomatch hLocate
  split at hLocate
  · exact nomatch hLocate
  · rename_i hSome hClean hShort
    rw [if_neg hSome, if_neg hClean, if_neg hShort]
    exact walk_put? hPut hLocate

------------------------------------------------------------
-- Created Files
------------------------------------------------------------

theorem put?_of_place
    {object : FileObject}
    (hPlace : tree.place location object = .ok later) :
    tree.put? location object = some later := by
  unfold place at hPlace
  split at hPlace
  · rename_i hPut
    cases hPlace
    exact hPut
  · exact nomatch hPlace

theorem find?_of_object?
    (hObject :
      tree.object? location = some (.file attributes old)) :
    tree.find? location = some (.file attributes old) := by
  unfold object? at hObject
  split at hObject
  · exact nomatch hObject
  · exact hObject

/-
  A file is created by putting an empty one next to others or
  in place of the file that is there.
-/
theorem put?_of_createFile
    (hCreate :
      tree.createFile directory path =
        .ok (location, later)) :
    (∃ parent name,
      tree.locate true directory path =
          .ok (.absent parent name) ∧
        location = parent ++ [name] ∧
        tree.put? location (.file newFile "") =
          some later) ∨
    (∃ attributes old,
      tree.locate true directory path =
          .ok (.here location) ∧
        tree.find? location =
          some (.file attributes old) ∧
        tree.put? location (.file attributes "") =
          some later) := by
  unfold createFile at hCreate
  split at hCreate
  · split at hCreate
    · exact nomatch hCreate
    · split at hCreate
      · exact nomatch hCreate
      · exact nomatch hCreate
  · unfold createFileAt at hCreate
    split at hCreate
    · exact nomatch hCreate
    · rename_i parent name hLocate
      rcases map_eq_ok_iff.1 hCreate with
        ⟨placed, hPlaced, hSame⟩
      cases hSame
      exact .inl ⟨parent, name, hLocate, rfl,
        put?_of_place hPlaced⟩
    · rename_i found hLocate
      split at hCreate
      · rename_i attributes old hObject
        rcases map_eq_ok_iff.1 hCreate with
          ⟨placed, hPlaced, hSame⟩
        cases hSame
        exact .inr ⟨attributes, old, hLocate,
          find?_of_object? hObject, put?_of_place hPlaced⟩
      · exact nomatch hCreate
      · exact nomatch hCreate

/-
  The path of a file that is created leads to it, whether it
  was there before or not, and it is empty.
-/
theorem empty_of_createFile
    (hCreate :
      tree.createFile directory path =
        .ok (location, later)) :
    later.locate true directory path =
        .ok (.here location) ∧
      ∃ attributes,
        later.find? location =
          some (.file attributes "") := by
  rcases put?_of_createFile hCreate with hNew | hOld
  · rcases hNew with ⟨parent, name, hLocate, rfl, hPut⟩
    refine ⟨locate_put? hPut hLocate, newFile, ?_⟩
    rw [find?_put? hPut, if_pos rfl]
  · rcases hOld with
      ⟨attributes, old, hLocate, hFound, hPut⟩
    refine ⟨?_, attributes, ?_⟩
    · rw [← locate_congr (sameOutline_put? hFound hPut),
        hLocate]
    · rw [find?_put? hPut, if_pos rfl]

/-
  What is written to a file that was created is what is read
  from it then.
-/
theorem readText_appendText_of_createFile
    (hCreate :
      tree.createFile directory path = .ok (location, later))
    (text : String) :
    (later.appendText location text).readText directory path =
      .ok text := by
  rcases empty_of_createFile hCreate with
    ⟨hLocate, attributes, hEmpty⟩
  rcases exists_put?_of_file hEmpty rfl
      (.file attributes ("" ++ text)) rfl with
    ⟨written, hWritten⟩
  have hAppend :
      later.appendText location text = written := by
    unfold appendText
    rw [hEmpty]
    dsimp only
    rw [hWritten]
    rfl
  have hWay :
      written.locate true directory path =
        .ok (.here location) := by
    rw [← locate_congr (sameOutline_put? hEmpty hWritten),
      hLocate]
  rw [hAppend]
  apply readText_eq_ok_iff.2
  refine ⟨location, attributes, hWay, ?_⟩
  rw [find?_put? hWritten, if_pos rfl, String.empty_append]

end FileTree

end TreeKeeper
