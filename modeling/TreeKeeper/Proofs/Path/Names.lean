import Mathlib.Algebra.GroupWithZero.Nat
import TreeKeeper.Path.Basic
import TreeKeeper.Proofs.Text.Pieces

/-
  Absolute paths without dots, as lists of names.  Every path
  below a root is normalized to such a path, and the path of
  an entry below a root and its place are two forms of one
  list of names.

  Key definitions include:
    * `Path.IsName`
    * `Path.spelled`

  Main declarations:
    * `Path.components_ofNames`
    * `Path.ofNames_injective`
    * `Path.ofNames_eq_spelled`
    * `Path.utf8ByteSize_spelled`
    * `Path.exists_ofNames_append`
    * `Path.join_ofNames`
    * `Path.exists_names_of_resolveUnder`
    * `Path.resolveUnder_ofNames`
    * `Path.relativeTo_ofNames`
-/

------------------------------------------------------------
-- Names
------------------------------------------------------------

namespace TreeKeeper

namespace Path

/- Whether a text is the name of something in a directory. -/
structure IsName (text : List Char) : Prop where
  ne_nil : text ≠ []
  ne_current : text ≠ ['.']
  ne_parent : text ≠ ['.', '.']
  no_slash : '/' ∉ text

theorem isName_iff
    {text : List Char} :
    IsName text ↔
      text ≠ [] ∧ text ≠ ['.'] ∧ text ≠ ['.', '.'] ∧
        '/' ∉ text :=
  ⟨fun ⟨hNil, hCurrent, hParent, hSlash⟩ =>
      ⟨hNil, hCurrent, hParent, hSlash⟩,
    fun ⟨hNil, hCurrent, hParent, hSlash⟩ =>
      ⟨hNil, hCurrent, hParent, hSlash⟩⟩

instance
    (text : List Char) : Decidable (IsName text) :=
  decidable_of_iff _ isName_iff.symm

variable {ns ms : List (List Char)}

theorem IsName.not_isTrivial
    {text : List Char}
    (hName : IsName text) : isTrivial text = false := by
  unfold isTrivial
  rw [Bool.or_eq_false_iff]
  exact ⟨beq_false_of_ne hName.ne_nil,
    beq_false_of_ne hName.ne_current⟩

theorem IsName.ofPiece
    {text : List Char}
    (hName : IsName text) :
    Component.ofPiece text = .name text :=
  if_neg hName.ne_parent

/- A piece that makes a name component is a name. -/
theorem isName_of_mem_splitOn
    {text piece : List Char}
    (hPiece : piece ∈ Text.splitOn '/' text)
    (hTrivial : isTrivial piece = false)
    (hParent : piece ≠ ['.', '.']) : IsName piece := by
  unfold isTrivial at hTrivial
  rw [Bool.or_eq_false_iff, beq_eq_false_iff_ne,
    beq_eq_false_iff_ne] at hTrivial
  exact ⟨hTrivial.1, hTrivial.2, hParent,
    Text.not_mem_of_mem_splitOn hPiece⟩

theorem ofPieces_append
    (first second : List (List Char)) :
    ofPieces (first ++ second) =
      ofPieces first ++ ofPieces second := by
  unfold ofPieces
  rw [List.filter_append, List.map_append]

theorem ofPieces_names
    (hNames : ∀ n ∈ ns, IsName n) :
    ofPieces ns = ns.map .name := by
  unfold ofPieces
  rw [List.filter_eq_self.2 fun n hn => by
    rw [(hNames n hn).not_isTrivial]
    rfl]
  exact List.map_congr_left fun n hn => (hNames n hn).ofPiece

------------------------------------------------------------
-- Paths Of Names
------------------------------------------------------------

theorem toList_ofNames
    (ns : List (List Char)) :
    (ofNames ns).toList =
      '/' :: Text.joinWith ['/'] ns :=
  String.toList_ofList

theorem isAbsolute_ofNames
    (ns : List (List Char)) :
    isAbsolute (ofNames ns) = true := by
  unfold isAbsolute
  rw [toList_ofNames]
  rfl

/- The pieces behind the first slash of a path of names. -/
theorem splitOn_names
    (hNames : ∀ n ∈ ns, IsName n) :
    Text.splitOn '/' (Text.joinWith ['/'] ns) =
      if ns = [] then [[]] else ns := by
  by_cases hNil : ns = []
  · rw [if_pos hNil, hNil]
    rfl
  · rw [if_neg hNil]
    exact Text.splitOn_joinWith hNil fun n hn =>
      (hNames n hn).no_slash

theorem ofPieces_splitOn_names
    (hNames : ∀ n ∈ ns, IsName n) :
    ofPieces (Text.splitOn '/' (Text.joinWith ['/'] ns)) =
      ns.map .name := by
  rw [splitOn_names hNames]
  split
  · rename_i hNil
    rw [hNil]
    rfl
  · exact ofPieces_names hNames

/- The slash in front of an absolute path is a component. -/
theorem componentsOf_slash
    (body : List Char) :
    componentsOf ('/' :: body) =
      .root :: ofPieces (Text.splitOn '/' body) :=
  rfl

theorem components_ofNames
    (hNames : ∀ n ∈ ns, IsName n) :
    components (ofNames ns) = .root :: ns.map .name := by
  unfold components
  rw [toList_ofNames, componentsOf_slash,
    ofPieces_splitOn_names hNames]

theorem foldl_follow_names
    (location : List (List Char))
    (ns : List (List Char)) :
    (ns.map Component.name).foldl follow location =
      ns.reverse ++ location := by
  induction ns generalizing location with
  | nil => rfl
  | cons n ns ih =>
      rw [List.map_cons, List.foldl_cons, ih,
        List.reverse_cons, List.append_assoc]
      rfl

theorem names_ofNames
    (hNames : ∀ n ∈ ns, IsName n) :
    names (ofNames ns) = ns := by
  unfold names resolveDots
  rw [components_ofNames hNames, List.foldl_cons,
    foldl_follow_names]
  simp [follow]

/- Paths of different names are different. -/
theorem ofNames_injective
    (hFirst : ∀ n ∈ ns, IsName n)
    (hSecond : ∀ m ∈ ms, IsName m)
    (hSame : ofNames ns = ofNames ms) : ns = ms := by
  rw [← names_ofNames hFirst, hSame, names_ofNames hSecond]

theorem normalize_ofNames
    (hNames : ∀ n ∈ ns, IsName n) :
    normalize (ofNames ns) = ofNames ns := by
  unfold normalize
  rw [if_pos (isAbsolute_ofNames ns), names_ofNames hNames]

------------------------------------------------------------
-- Spelled Paths
------------------------------------------------------------

/- The path with a slash in front of each piece. -/
def spelled (pieces : List (List Char)) : String :=
  String.ofList (pieces.flatMap ('/' :: ·))

theorem toList_spelled
    (ns : List (List Char)) :
    (spelled ns).toList = ns.flatMap ('/' :: ·) :=
  String.toList_ofList

/- The path of some names is spelled in this way. -/
theorem ofNames_eq_spelled
    (hSome : ns ≠ []) :
    ofNames ns = spelled ns := by
  apply String.toList_injective
  rw [toList_ofNames, toList_spelled]
  induction ns with
  | nil => exact absurd rfl hSome
  | cons n ns ih =>
      cases ns with
      | nil => simp [Text.joinWith]
      | cons next ns =>
          rw [List.flatMap_cons, ← ih (List.cons_ne_nil _ _),
            Text.joinWith, List.append_assoc]
          rfl

/- A spelled path is as long as its pieces and slashes. -/
theorem utf8ByteSize_spelled
    (ns : List (List Char)) :
    (spelled ns).utf8ByteSize =
      (ns.map fun n =>
        (String.ofList n).utf8ByteSize + 1).sum := by
  induction ns with
  | nil => rfl
  | cons n ns ih =>
      have hFirst :
          spelled (n :: ns) =
            String.singleton '/' ++
              (String.ofList n ++ spelled ns) := by
        unfold spelled
        rw [List.flatMap_cons, List.cons_append,
          String.ofList_cons, String.ofList_append]
      rw [hFirst, String.utf8ByteSize_append,
        String.utf8ByteSize_append, ih,
        String.utf8ByteSize_singleton, List.map_cons,
        List.sum_cons, ← Nat.add_assoc]
      congr 1
      exact Nat.add_comm 1 _

------------------------------------------------------------
-- Normal Forms
------------------------------------------------------------

/- Following components of a path leads to names. -/
theorem isName_of_mem_foldl_follow
    {text : List Char}
    {pieces location : List (List Char)}
    (hPieces : pieces ⊆ Text.splitOn '/' text)
    (hLocation : ∀ n ∈ location, IsName n) :
    ∀ n ∈ (ofPieces pieces).foldl follow location,
      IsName n := by
  induction pieces generalizing location with
  | nil => exact hLocation
  | cons piece pieces ih =>
      rcases List.cons_subset.1 hPieces with ⟨hPiece, hLater⟩
      unfold ofPieces at ih ⊢
      cases hTrivial : isTrivial piece with
      | true =>
          rw [List.filter_cons_of_neg (by simp [hTrivial])]
          exact ih hLater hLocation
      | false =>
          rw [List.filter_cons_of_pos (by simp [hTrivial]),
            List.map_cons, List.foldl_cons]
          apply ih hLater
          unfold Component.ofPiece
          split
          · exact fun n hn => hLocation n (List.mem_of_mem_tail hn)
          · rename_i hParent
            exact List.forall_mem_cons.2
              ⟨isName_of_mem_splitOn hPiece hTrivial hParent,
                hLocation⟩

/- The components of an absolute path. -/
theorem components_of_isAbsolute
    {path : String}
    (hPath : isAbsolute path = true) :
    ∃ body, components path =
      .root :: ofPieces (Text.splitOn '/' body) := by
  unfold isAbsolute at hPath
  unfold components
  cases hText : path.toList with
  | nil =>
      rw [hText] at hPath
      exact nomatch hPath
  | cons c body =>
      rw [hText] at hPath
      obtain rfl : c = '/' := by simpa using hPath
      exact ⟨body, componentsOf_slash body⟩

/- An absolute path is normalized to a path of names. -/
theorem isName_names
    {path : String}
    (hPath : isAbsolute path = true) :
    ∀ n ∈ names path, IsName n := by
  rcases components_of_isAbsolute hPath with ⟨body, hParts⟩
  unfold names resolveDots
  rw [hParts, List.foldl_cons]
  intro n hn
  exact isName_of_mem_foldl_follow (List.Subset.refl _)
    (fun _ h => absurd h List.not_mem_nil) n
    (List.mem_reverse.1 hn)

------------------------------------------------------------
-- Joining
------------------------------------------------------------

/- A path that is seen from an absolute one is absolute. -/
theorem isAbsolute_join_of_isAbsolute
    {directory : String}
    (hDirectory : isAbsolute directory = true)
    (path : String) :
    isAbsolute (join directory path) = true := by
  unfold join
  by_cases hPath : isAbsolute path = true
  · rw [if_pos hPath]
    exact hPath
  · rw [if_neg hPath]
    unfold isAbsolute at hDirectory ⊢
    rw [beq_iff_eq] at hDirectory
    split <;> simp [String.toList_append, hDirectory]

/- A path that is seen from a place is absolute. -/
theorem isAbsolute_join
    (ns : List (List Char))
    (path : String) :
    isAbsolute (join (ofNames ns) path) = true :=
  isAbsolute_join_of_isAbsolute (isAbsolute_ofNames ns) path

/- Names with a slash behind each of them. -/
def closed (ns : List (List Char)) : List Char :=
  ns.flatMap fun n => n ++ ['/']

theorem joinWith_append_slash
    (hSome : ns ≠ []) :
    Text.joinWith ['/'] ns ++ ['/'] = closed ns := by
  induction ns with
  | nil => exact absurd rfl hSome
  | cons n ns ih =>
      unfold closed at ih ⊢
      cases ns with
      | nil => simp [Text.joinWith]
      | cons next ns =>
          rw [Text.joinWith, List.append_assoc,
            ih (List.cons_ne_nil _ _)]
          rfl

/- The pieces of names that are followed by another text. -/
theorem splitOn_closed
    (hNames : ∀ n ∈ ns, IsName n)
    (rest : List Char) :
    Text.splitOn '/' (closed ns ++ rest) =
      ns ++ Text.splitOn '/' rest := by
  unfold closed
  induction ns with
  | nil => rfl
  | cons n ns ih =>
      rcases List.forall_mem_cons.1 hNames with ⟨hName, hLater⟩
      rw [List.flatMap_cons, List.append_assoc,
        List.append_assoc, List.singleton_append,
        Text.splitOn_line hName.no_slash, ih hLater,
        List.cons_append]

/- A path of names ends in a slash only at the root. -/
theorem getLast?_ofNames
    (hNames : ∀ n ∈ ns, IsName n)
    (hSome : ns ≠ []) :
    (ofNames ns).toList.getLast? ≠ some '/' := by
  rw [toList_ofNames]
  induction ns with
  | nil => exact absurd rfl hSome
  | cons n ns ih =>
      rcases List.forall_mem_cons.1 hNames with ⟨hName, hLater⟩
      cases ns with
      | nil =>
          intro hLast
          rw [Text.joinWith, List.getLast?_cons,
            Option.some.injEq] at hLast
          have hMember := List.getLast_mem hName.ne_nil
          rw [List.getLast?_eq_some_getLast hName.ne_nil,
            Option.getD_some] at hLast
          exact hName.no_slash (hLast ▸ hMember)
      | cons next ns =>
          have hRest := ih hLater (List.cons_ne_nil _ _)
          rw [List.getLast?_cons] at hRest
          rw [Text.joinWith, List.append_assoc,
            List.singleton_append, ← List.cons_append,
            List.getLast?_append, List.getLast?_cons]
          exact hRest

/- How a path is spelled that is seen from a place. -/
theorem toList_join
    {path : String}
    (hNames : ∀ n ∈ ns, IsName n)
    (hPath : isAbsolute path = false) :
    (join (ofNames ns) path).toList =
      '/' :: (closed ns ++ path.toList) := by
  have hNonempty : ofNames ns ≠ "" := by
    intro hEmpty
    have hText := toList_ofNames ns
    rw [hEmpty] at hText
    exact nomatch hText
  unfold join
  rw [if_neg (by simp [hPath])]
  by_cases hNil : ns = []
  · subst hNil
    rw [if_pos (Or.inr (by rfl)), String.toList_append]
    rfl
  · rw [if_neg (not_or.2
      ⟨hNonempty, getLast?_ofNames hNames hNil⟩),
      String.toList_append, String.toList_append,
      toList_ofNames, ← joinWith_append_slash hNil]
    rfl

theorem components_join
    {path : String}
    (hNames : ∀ n ∈ ns, IsName n)
    (hPath : isAbsolute path = false) :
    components (join (ofNames ns) path) =
      .root :: (ns.map .name ++
        ofPieces (Text.splitOn '/' path.toList)) := by
  unfold components
  rw [toList_join hNames hPath, componentsOf_slash,
    splitOn_closed hNames, ofPieces_append,
    ofPieces_names hNames]

theorem joinWith_append
    (hSome : ms ≠ []) :
    Text.joinWith ['/'] (ns ++ ms) =
      closed ns ++ Text.joinWith ['/'] ms := by
  unfold closed
  induction ns with
  | nil => rfl
  | cons n ns ih =>
      cases hRest : ns ++ ms with
      | nil => exact absurd (List.append_eq_nil_iff.1 hRest).2 hSome
      | cons next rest =>
          rw [List.cons_append, hRest, Text.joinWith, ← hRest,
            ih, List.flatMap_cons]
          simp only [List.append_assoc]

/- The path of a place continues those of places above it. -/
theorem exists_ofNames_append
    (ns ms : List (List Char)) :
    ∃ rest, ofNames (ns ++ ms) = ofNames ns ++ rest := by
  by_cases hFirst : ns = []
  · subst hFirst
    refine ⟨String.ofList (Text.joinWith ['/'] ms), ?_⟩
    apply String.toList_injective
    rw [String.toList_append, toList_ofNames, toList_ofNames,
      String.toList_ofList]
    rfl
  by_cases hSecond : ms = []
  · refine ⟨"", ?_⟩
    rw [hSecond, List.append_nil, String.append_empty]
  · refine ⟨String.ofList ('/' :: Text.joinWith ['/'] ms), ?_⟩
    apply String.toList_injective
    rw [String.toList_append, toList_ofNames, toList_ofNames,
      String.toList_ofList, joinWith_append hSecond,
      ← joinWith_append_slash hFirst]
    simp only [List.cons_append, List.append_assoc,
      List.nil_append]

/- The place of a name in a directory. -/
theorem join_ofNames
    {name : String}
    (hNames : ∀ n ∈ ns, IsName n)
    (hName : IsName name.toList) :
    join (ofNames ns) name = ofNames (ns ++ [name.toList]) := by
  have hPath : isAbsolute name = false := by
    unfold isAbsolute
    cases hText : name.toList with
    | nil => rfl
    | cons c rest =>
        have hSlash := hName.no_slash
        rw [hText, List.mem_cons, not_or] at hSlash
        simpa using Ne.symm hSlash.1
  apply String.toList_injective
  rw [toList_join hNames hPath, toList_ofNames,
    joinWith_append (List.cons_ne_nil _ _)]
  rfl

------------------------------------------------------------
-- Below A Root
------------------------------------------------------------

/- The names that a path below some names leads to. -/
theorem names_join
    {path : String}
    (hNames : ∀ n ∈ ns, IsName n)
    (hPath : isAbsolute path = false) :
    names (join (ofNames ns) path) =
      ((ofPieces (Text.splitOn '/' path.toList)).foldl follow
        ns.reverse).reverse := by
  unfold names resolveDots
  rw [components_join hNames hPath, List.foldl_cons,
    List.foldl_append, foldl_follow_names]
  simp [follow]

/- What is left of a path without the slashes in front. -/
theorem isAbsolute_dropWhile
    (path : String) :
    isAbsolute (String.ofList
      (path.toList.dropWhile (· == '/'))) = false := by
  unfold isAbsolute
  rw [String.toList_ofList]
  cases hRest : path.toList.dropWhile (· == '/') with
  | nil => rfl
  | cons c rest =>
      have hHead := List.head_dropWhile_not (· == '/')
        (hRest ▸ List.cons_ne_nil c rest)
      simp only [hRest, List.head_cons] at hHead
      simpa using hHead

theorem isAtOrBelow_ofNames
    (hNames : ∀ n ∈ ns, IsName n)
    (hOthers : ∀ m ∈ ms, IsName m) :
    isAtOrBelow (ofNames ms) (ofNames ns) = true ↔
      ns <+: ms := by
  unfold isAtOrBelow
  rw [components_ofNames hNames, components_ofNames hOthers,
    List.isPrefixOf_iff_prefix, List.cons_prefix_cons]
  constructor
  · rintro ⟨_, hPrefix⟩
    exact (List.prefix_map_iff_of_injective fun _ _ h =>
      Component.name.inj h).1 hPrefix
  · exact fun hPrefix => ⟨rfl, hPrefix.map _⟩

/- What is resolved below a root lies at or below it. -/
theorem exists_names_of_resolveUnder
    {path place : String}
    (hNames : ∀ n ∈ ns, IsName n)
    (hResolve :
      resolveUnder (ofNames ns) path = some place) :
    ∃ ms, (∀ m ∈ ms, IsName m) ∧
      place = ofNames (ns ++ ms) := by
  unfold resolveUnder at hResolve
  dsimp only at hResolve
  generalize hRelative :
    String.ofList (path.toList.dropWhile (· == '/')) =
      relative at hResolve
  have hJoined := isAbsolute_join ns relative
  have hAll := isName_names hJoined
  unfold normalize at hResolve
  rw [if_pos hJoined, if_pos (isAbsolute_ofNames ns),
    names_ofNames hNames] at hResolve
  split at hResolve
  · rename_i hBelow
    rcases (isAtOrBelow_ofNames hNames hAll).1 hBelow with
      ⟨ms, hSplit⟩
    refine ⟨ms, fun m hm => hAll m ?_, ?_⟩
    · rw [← hSplit]
      exact List.mem_append_right ns hm
    · rw [hSplit]
      exact (Option.some.inj hResolve).symm
  · exact nomatch hResolve

/- A joined text of names does not begin with a slash. -/
theorem dropWhile_names
    (hNames : ∀ n ∈ ns, IsName n) :
    (Text.joinWith ['/'] ns).dropWhile (· == '/') =
      Text.joinWith ['/'] ns := by
  have hStart (n rest : List Char) (hName : IsName n) :
      (n ++ rest).dropWhile (· == '/') = n ++ rest := by
    cases n with
    | nil => exact absurd rfl hName.ne_nil
    | cons c n =>
        have hSlash := hName.no_slash
        rw [List.mem_cons, not_or] at hSlash
        exact List.dropWhile_cons_of_neg
          (by simpa using Ne.symm hSlash.1)
  cases ns with
  | nil => rfl
  | cons n ns =>
      have hName := hNames n List.mem_cons_self
      cases ns with
      | nil =>
          have hAlone := hStart n [] hName
          rw [List.append_nil] at hAlone
          exact hAlone
      | cons next ns =>
          rw [Text.joinWith, List.append_assoc]
          exact hStart n _ hName

/- The path of an entry is resolved to its place. -/
theorem resolveUnder_ofNames
    (hNames : ∀ n ∈ ns, IsName n)
    (hOthers : ∀ m ∈ ms, IsName m) :
    resolveUnder (ofNames ns) (ofNames ms) =
      some (ofNames (ns ++ ms)) := by
  have hAll : ∀ n ∈ ns ++ ms, IsName n :=
    List.forall_mem_append.2 ⟨hNames, hOthers⟩
  have hRelative :
      (ofNames ms).toList.dropWhile (· == '/') =
        Text.joinWith ['/'] ms := by
    rw [toList_ofNames, List.dropWhile_cons_of_pos rfl,
      dropWhile_names hOthers]
  have hPath := isAbsolute_dropWhile (ofNames ms)
  have hJoined := isAbsolute_join ns
    (String.ofList (Text.joinWith ['/'] ms))
  have hPlace :
      names (join (ofNames ns)
        (String.ofList (Text.joinWith ['/'] ms))) =
        ns ++ ms := by
    rw [hRelative] at hPath
    rw [names_join hNames hPath, String.toList_ofList,
      ofPieces_splitOn_names hOthers, foldl_follow_names,
      List.reverse_append, List.reverse_reverse,
      List.reverse_reverse]
  unfold resolveUnder normalize
  dsimp only
  rw [hRelative, if_pos hJoined,
    if_pos (isAbsolute_ofNames ns), hPlace,
    names_ofNames hNames]
  exact if_pos ((isAtOrBelow_ofNames hNames hAll).2
    (List.prefix_append ns ms))

theorem dropComponents_names
    (hNames : ∀ n ∈ ns, IsName n)
    (rest : List (List Char)) :
    dropComponents (ns.map .name) (ns ++ rest) =
      some rest := by
  induction ns with
  | nil => rw [List.map_nil, List.nil_append, dropComponents]
  | cons n ns ih =>
      rcases List.forall_mem_cons.1 hNames with ⟨hName, hLater⟩
      rw [List.map_cons, List.cons_append, dropComponents,
        hName.not_isTrivial, if_neg Bool.false_ne_true,
        if_pos hName.ofPiece, ih hLater]

theorem corePieces_names
    (hNames : ∀ n ∈ ns, IsName n) :
    corePieces ns = ns := by
  have hAll (ms : List (List Char))
      (hNames : ∀ n ∈ ms, IsName n) :
      ms.dropWhile isTrivial = ms := by
    cases ms with
    | nil => rfl
    | cons m ms =>
        exact List.dropWhile_cons_of_neg (by
          rw [(hNames m List.mem_cons_self).not_isTrivial]
          exact Bool.false_ne_true)
  unfold corePieces trimPieces
  rw [hAll ns hNames,
    hAll ns.reverse fun n hn =>
      hNames n (List.mem_reverse.1 hn),
    List.reverse_reverse]

/- The path of an entry is what is left of its place. -/
theorem relativeTo_ofNames
    (hNames : ∀ n ∈ ns, IsName n)
    (hOthers : ∀ m ∈ ms, IsName m) :
    relativeTo (ofNames ns) (ofNames (ns ++ ms)) =
      some (ofNames ms) := by
  have hAll : ∀ n ∈ ns ++ ms, IsName n :=
    List.forall_mem_append.2 ⟨hNames, hOthers⟩
  have hStrip :
      strip? (ofNames (ns ++ ms)) (ofNames ns) =
        (dropComponents (ns.map .name)
          (Text.splitOn '/'
            (Text.joinWith ['/'] (ns ++ ms)))).map
          fun rest =>
            Text.joinWith ['/'] (corePieces rest) := by
    unfold strip?
    rw [components_ofNames hNames, toList_ofNames]
    rfl
  unfold relativeTo
  rw [hStrip, splitOn_names hAll]
  split
  · rename_i hNil
    rcases List.append_eq_nil_iff.1 hNil with ⟨rfl, rfl⟩
    rfl
  · rw [dropComponents_names hNames, Option.map_some,
      corePieces_names hOthers]
    rfl

end Path

end TreeKeeper
