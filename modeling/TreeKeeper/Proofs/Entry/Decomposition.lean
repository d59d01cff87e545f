import Mathlib.Data.List.DropRight
import TreeKeeper.Proofs.Path.Resolution
import TreeKeeper.Proofs.Search.Formatting

/-
  Paths with a slash in front of each of their pieces.  All
  that is read off such a path follows its pieces: the name is
  the last one, the depth is their number, the directory and
  the relative path are what is left without the name or the
  slash in front.  Seen from a root, the pieces are put behind
  the names of the root, and taken off there again.

  Key definitions include:
    * `Path.IsPiece`
    * `Path.IsNormalized`

  Main declarations:
    * `Path.resolveUnder_normalize`
    * `Path.exists_place`
    * `Entry.nameOf_spelled`
    * `Entry.directoryOf_spelled`
    * `Entry.depth_spelled`
    * `Entry.path_decomposes`
-/

------------------------------------------------------------
-- Spelled Paths
------------------------------------------------------------

namespace TreeKeeper

namespace Path

/- Whether a text may stand between slashes. -/
structure IsPiece (text : List Char) : Prop where
  ne_nil : text ≠ []
  no_slash : '/' ∉ text

instance
    (text : List Char) : Decidable (IsPiece text) :=
  decidable_of_iff (text ≠ [] ∧ '/' ∉ text)
    ⟨fun ⟨hNil, hSlash⟩ => ⟨hNil, hSlash⟩,
      fun ⟨hNil, hSlash⟩ => ⟨hNil, hSlash⟩⟩

/-
  Absolute paths that stay as they are when they are
  normalized.  Paths are compared by their components.
-/
structure IsNormalized (path : String) : Prop where
  absolute : isAbsolute path = true
  same : components (normalize path) = components path

variable {ns : List (List Char)}
variable {name : List Char}
variable {root : String}

theorem toList_spelled_append
    (front : List (List Char))
    (name : List Char) :
    (spelled (front ++ [name])).toList =
      front.flatMap ('/' :: ·) ++ '/' :: name := by
  rw [toList_spelled, List.flatMap_append,
    List.flatMap_singleton]

theorem IsPiece.isName
    (hPiece : IsPiece name)
    (hDots : name ≠ ['.'] ∧ name ≠ ['.', '.']) :
    IsName name :=
  ⟨hPiece.ne_nil, hDots.1, hDots.2, hPiece.no_slash⟩

theorem IsPiece.ne_slash_of_mem_reverse
    (hPiece : IsPiece name) :
    ∀ c ∈ name.reverse, decide (c ≠ '/') = true := by
  intro c hc
  apply decide_eq_true
  rintro rfl
  exact hPiece.no_slash (List.mem_reverse.1 hc)

/- There is one slash for each piece. -/
theorem count_spelled
    (hPieces : ∀ n ∈ ns, IsPiece n) :
    (spelled ns).toList.count '/' = ns.length := by
  rw [toList_spelled]
  induction ns with
  | nil => rfl
  | cons n ns ih =>
      rcases List.forall_mem_cons.1 hPieces with
        ⟨hPiece, hLater⟩
      rw [List.flatMap_cons, List.cons_append,
        List.count_cons_self, List.count_append,
        List.count_eq_zero_of_not_mem hPiece.no_slash,
        ih hLater, Nat.zero_add, List.length_cons]

------------------------------------------------------------
-- Seen From A Root
------------------------------------------------------------

theorem IsNormalized.components_eq
    (hRoot : IsNormalized root) :
    components root = .root :: (names root).map .name := by
  rw [← hRoot.same]
  unfold normalize
  rw [if_pos hRoot.absolute,
    components_ofNames (isName_names hRoot.absolute)]

/- Only the components of a root matter for what is left. -/
theorem relativeTo_congr
    {other : String}
    (hSame : components root = components other)
    (path : String) :
    relativeTo root path = relativeTo other path := by
  unfold relativeTo strip?
  rw [hSame]

/- Only the names along a root matter for what is resolved. -/
theorem resolveUnder_normalize
    (hRoot : isAbsolute root = true)
    (path : String) :
    resolveUnder (normalize root) path =
      resolveUnder root path := by
  have hNames := isName_names hRoot
  have hSame :
      (written (normalize root)).foldl follow [] =
        (written root).foldl follow [] := by
    apply List.reverse_injective
    have hPlace := names_eq_resolveDots
      (isAbsolute_ofNames (names root))
    rw [names_ofNames hNames, names_eq_resolveDots hRoot]
      at hPlace
    unfold normalize
    rw [if_pos hRoot, names_eq_resolveDots hRoot]
    exact hPlace.symm
  have hAbsolute : isAbsolute (normalize root) = true := by
    unfold normalize
    rw [if_pos hRoot]
    exact isAbsolute_ofNames _
  rw [resolveUnder_eq_ite hAbsolute, resolveUnder_eq_ite hRoot]
  unfold resolveDots
  rw [List.foldl_append, List.foldl_append, hSame]

/- Names are put behind a root and taken off there again. -/
theorem relativeTo_and_resolveUnder
    (hRoot : IsNormalized root)
    (hNames : ∀ n ∈ ns, IsName n) :
    relativeTo root (ofNames (names root ++ ns)) =
        some (ofNames ns) ∧
      resolveUnder root (ofNames ns) =
        some (ofNames (names root ++ ns)) := by
  have hBase := isName_names hRoot.absolute
  have hNormal : normalize root = ofNames (names root) :=
    if_pos hRoot.absolute
  constructor
  · rw [relativeTo_congr hRoot.same.symm, hNormal,
      relativeTo_ofNames hBase hNames]
  · rw [← resolveUnder_normalize hRoot.absolute, hNormal,
      resolveUnder_ofNames hBase hNames]

/- The place of a path below a root. -/
theorem exists_place
    (hSome : ns ≠ [])
    (hRoot : IsNormalized root)
    (hNames : ∀ n ∈ ns, IsName n) :
    ∃ place,
      place = spelled (names root ++ ns) ∧
      components place = components root ++ ns.map .name ∧
      relativeTo root place = some (spelled ns) ∧
      resolveUnder root (spelled ns) = some place := by
  have hAll : ∀ n ∈ names root ++ ns, IsName n :=
    List.forall_mem_append.2
      ⟨isName_names hRoot.absolute, hNames⟩
  have hPlace :
      ofNames (names root ++ ns) =
        spelled (names root ++ ns) :=
    ofNames_eq_spelled
      (List.append_ne_nil_of_right_ne_nil _ hSome)
  rcases relativeTo_and_resolveUnder hRoot hNames with
    ⟨hRelative, hResolve⟩
  rw [ofNames_eq_spelled hSome] at hRelative hResolve
  refine ⟨_, hPlace, ?_, hRelative, hResolve⟩
  rw [components_ofNames hAll, hRoot.components_eq,
    List.map_append, List.cons_append]

end Path

------------------------------------------------------------
-- Parts Of A Path
------------------------------------------------------------

namespace Format

theorem print_directory
    (entry : Entry) :
    print "%h" entry = .ok (Entry.directoryOf entry.path) := by
  have hLetter : 'h' ∈ Directive.directory.letters :=
    List.mem_cons_self
  exact print_directive rfl hLetter entry

theorem print_relativePath
    (entry : Entry) :
    print "%P" entry = .ok (Entry.relativeOf entry.path) := by
  have hLetter : 'P' ∈ Directive.relativePath.letters :=
    List.mem_cons_self
  exact print_directive rfl hLetter entry

end Format

namespace Entry

open TreeKeeper.Path

variable {ns front : List (List Char)}
variable {name : List Char}

/- A path that ends in a piece has no slashes at its end. -/
theorem dropTrailing_piece
    (hPiece : IsPiece name)
    (text : List Char) :
    Text.dropTrailing (· == '/') (text ++ '/' :: name) =
      text ++ '/' :: name := by
  apply List.rdropWhile_eq_self_iff.2
  intro hSome hSlash
  rw [List.getLast_append_of_right_ne_nil _ _
      (List.cons_ne_nil _ _),
    List.getLast_cons hPiece.ne_nil, beq_iff_eq] at hSlash
  exact hPiece.no_slash
    (hSlash ▸ List.getLast_mem hPiece.ne_nil)

/- Behind the last slash there is the last piece. -/
theorem lastComponent_piece
    (hPiece : IsPiece name)
    (text : List Char) :
    lastComponent (text ++ '/' :: name) = name := by
  unfold lastComponent
  rw [List.reverse_append, List.reverse_cons,
    List.append_assoc, List.takeWhile_append_of_pos]
  · simp
  · exact hPiece.ne_slash_of_mem_reverse

/- Up to the last slash there is what precedes that piece. -/
theorem dropWhile_piece
    (hPiece : IsPiece name)
    (text : List Char) :
    ((text ++ '/' :: name).reverse.dropWhile
        (· ≠ '/')).reverse =
      text ++ ['/'] := by
  rw [List.reverse_append, List.reverse_cons,
    List.append_assoc, List.dropWhile_append_of_pos]
  · simp
  · exact hPiece.ne_slash_of_mem_reverse

/- The last piece of a path. -/
theorem nameOf_spelled
    (hPiece : IsPiece name) :
    nameOf (spelled (front ++ [name])) =
      String.ofList name := by
  unfold nameOf
  rw [toList_spelled_append, dropTrailing_piece hPiece]
  split
  · rename_i hNone
    exact absurd (List.append_eq_nil_iff.1 hNone).2
      (List.cons_ne_nil _ _)
  · rw [lastComponent_piece hPiece]

/- The pieces in front of the last one. -/
theorem directoryOf_spelled
    (hPiece : IsPiece name) :
    directoryOf (spelled (front ++ [name])) =
      if front = [] then "/" else spelled front := by
  unfold directoryOf
  dsimp only
  rw [toList_spelled_append, dropTrailing_piece hPiece,
    dropWhile_piece hPiece]
  cases front with
  | nil => rfl
  | cons n front =>
      rw [if_neg (List.cons_ne_nil _ _)]
      split
      · rename_i hNone
        exact absurd (List.append_eq_nil_iff.1 hNone).2
          (List.cons_ne_nil _ _)
      · rename_i c hOne
        have hRest := (List.cons.inj hOne).2
        exact absurd (List.append_eq_nil_iff.1 hRest).2
          (List.cons_ne_nil _ _)
      · rw [List.dropLast_concat]
        rfl

/- A path is its directory, a slash and its name. -/
theorem directoryOf_slash_nameOf
    (hPiece : IsPiece name)
    (hFront : front ≠ []) :
    directoryOf (spelled (front ++ [name])) ++ "/" ++
        nameOf (spelled (front ++ [name])) =
      spelled (front ++ [name]) := by
  rw [directoryOf_spelled hPiece, nameOf_spelled hPiece,
    if_neg hFront]
  apply String.toList_injective
  rw [toList_spelled_append, String.toList_append,
    String.toList_append, toList_spelled, String.toList_ofList,
    List.append_assoc]
  exact congrArg _ (congrArg _ String.toList_ofList)

theorem depth_spelled
    {entry : Entry}
    (hSome : ns ≠ [])
    (hPieces : ∀ n ∈ ns, IsPiece n)
    (hPath : entry.path = spelled ns) :
    entry.depth = ns.length := by
  unfold depth
  rw [hPath, count_spelled hPieces, if_neg]
  intro hRoot
  have hText := congrArg String.toList hRoot
  rw [toList_spelled] at hText
  cases ns with
  | nil => exact hSome rfl
  | cons n ns =>
      have hRest := (List.cons.inj hText).2
      exact (hPieces n List.mem_cons_self).ne_nil
        (List.append_eq_nil_iff.1 hRest).1

theorem slash_relativeOf
    (hSome : ns ≠ []) :
    "/" ++ relativeOf (spelled ns) = spelled ns := by
  cases ns with
  | nil => exact absurd rfl hSome
  | cons n ns =>
      apply String.toList_injective
      unfold relativeOf
      rw [String.toList_append, toList_spelled,
        List.flatMap_cons]
      simp

/-
  A path with a slash in front of each of its pieces.  Its
  name is the last piece, its depth is the number of pieces,
  and its directory and its relative path are the rest of it.
  Unless there are dots among the pieces, the path belongs to
  the place with the same pieces behind those of a root.
-/
theorem path_decomposes
    {entry : Entry}
    (hSome : ns ≠ [])
    (hPieces : ∀ n ∈ ns, IsPiece n)
    (hPath : entry.path = spelled ns) :
    nameOf entry.path = String.ofList (ns.getLast hSome) ∧
    entry.depth = ns.length ∧
    (∃ directory,
      Format.print "%h" entry = .ok (some directory) ∧
      (ns.length = 1 → directory = "/") ∧
      (2 ≤ ns.length →
        directory ++ "/" ++ nameOf entry.path =
          entry.path)) ∧
    (∃ relative,
      Format.print "%P" entry = .ok (some relative) ∧
      "/" ++ relative = entry.path) ∧
    ((∀ n ∈ ns, n ≠ ['.'] ∧ n ≠ ['.', '.']) →
      ∀ root, IsNormalized root →
        ∃ place,
          place = spelled (names root ++ ns) ∧
          components place =
            components root ++ ns.map .name ∧
          relativeTo root place = some entry.path ∧
          resolveUnder root entry.path = some place) := by
  rcases List.eq_nil_or_concat' ns with
    rfl | ⟨front, name, rfl⟩
  · exact absurd rfl hSome
  have hPiece : IsPiece name :=
    hPieces name (List.mem_append_right _ List.mem_cons_self)
  refine ⟨?_, depth_spelled hSome hPieces hPath,
    ⟨_, Format.print_directory entry, ?_, ?_⟩,
    ⟨_, Format.print_relativePath entry, ?_⟩, ?_⟩
  · rw [hPath, nameOf_spelled hPiece, List.getLast_concat]
  · intro hOne
    have hFront : front = [] := by
      rw [List.length_append] at hOne
      exact List.eq_nil_of_length_eq_zero
        (Nat.succ.inj hOne)
    rw [hPath, directoryOf_spelled hPiece, if_pos hFront]
  · intro hMany
    have hFront : front ≠ [] := by
      rintro rfl
      exact absurd hMany (Nat.not_succ_le_self 1)
    rw [hPath, directoryOf_slash_nameOf hPiece hFront]
  · rw [hPath, slash_relativeOf hSome]
  · intro hDots root hRoot
    rw [hPath]
    exact exists_place hSome hRoot fun n hn =>
      (hPieces n hn).isName (hDots n hn)

/- Two pieces, and a root with more slashes than needed. -/
theorem path_decomposes_below_root :
    let pieces := ["usr".toList, "lib".toList]
    let entry : Entry := .ofPath "/usr/lib"
    let root := "/srv//data/"
    let place := "/srv/data/usr/lib"
    (∀ n ∈ pieces, IsPiece n) ∧
    entry.path = spelled pieces ∧
    IsNormalized root ∧
    nameOf entry.path = "lib" ∧
    entry.depth = 2 ∧
    (∃ directory,
      Format.print "%h" entry = .ok (some directory) ∧
      directory ++ "/" ++ nameOf entry.path = entry.path) ∧
    relativeTo root place = some entry.path ∧
    resolveUnder root entry.path = some place := by
  intro pieces entry root place
  have hPieces : ∀ n ∈ pieces, IsPiece n := by decide
  have hDots : ∀ n ∈ pieces, n ≠ ['.'] ∧ n ≠ ['.', '.'] := by
    decide
  have hPath : entry.path = spelled pieces := rfl
  have hRoot : IsNormalized root := ⟨by decide, by decide⟩
  have hPlace : spelled (names root ++ pieces) = place := by
    decide
  rcases path_decomposes (List.cons_ne_nil _ _) hPieces hPath
    with ⟨hName, hDepth, ⟨directory, hPrint, _, hMany⟩, _,
      hPlaces⟩
  rcases hPlaces hDots root hRoot with
    ⟨_, rfl, _, hRelative, hResolve⟩
  rw [hPlace] at hRelative hResolve
  exact ⟨hPieces, hPath, hRoot, hName, hDepth,
    ⟨directory, hPrint, hMany (by decide)⟩,
    hRelative, hResolve⟩

end Entry

end TreeKeeper
