import Mathlib.Logic.Relation
import TreeKeeper.Proofs.Path.Names

/-
  Resolving paths below a root.  A path is resolved to what is
  left of its components and those of the root when each dot
  is dropped and each double dot has cancelled the component
  in front of it, and only if the components of the root stay
  in front.

  Key definitions include:
    * `Path.written`
    * `Path.Cancels`
    * `Path.LeadsTo`

  Main declarations:
    * `Path.leadsTo_iff`
    * `Path.names_eq_resolveDots`
    * `Path.writtenIn_append`
    * `Path.resolveUnder_of_isAbsolute`
-/

------------------------------------------------------------
-- Written Components
------------------------------------------------------------

namespace TreeKeeper

namespace Path

/- The component that a piece between slashes stands for. -/
def Component.ofWritten (piece : List Char) : Component :=
  if piece = ['.'] then .current else ofPiece piece

/- The components between the slashes of a text. -/
def writtenIn (text : List Char) : List Component :=
  ((Text.splitOn '/' text).filter fun piece =>
    piece ≠ []).map Component.ofWritten

/-
  The components between the slashes of a path, dots and
  double dots included, wherever the path starts.
-/
def written (path : String) : List Component :=
  writtenIn path.toList

theorem writtenIn_append
    (first second : List Char) :
    writtenIn (first ++ '/' :: second) =
      writtenIn first ++ writtenIn second := by
  unfold writtenIn
  rw [Text.splitOn_append, List.filter_append,
    List.map_append]

/- Slashes in front of a text add nothing. -/
theorem writtenIn_dropWhile
    (text : List Char) :
    writtenIn (text.dropWhile (· == '/')) =
      writtenIn text := by
  induction text with
  | nil => rfl
  | cons c text ih =>
      by_cases hSlash : c = '/'
      · subst hSlash
        rw [List.dropWhile_cons_of_pos rfl, ih]
        exact (writtenIn_append [] text).symm
      · rw [List.dropWhile_cons_of_neg (by simpa using hSlash)]

theorem ne_root_of_mem_writtenIn
    {text : List Char}
    {c : Component}
    (hComponent : c ∈ writtenIn text) : c ≠ .root := by
  rcases List.mem_map.1 hComponent with ⟨piece, -, rfl⟩
  unfold Component.ofWritten Component.ofPiece
  split
  · exact nofun
  · split <;> exact nofun

------------------------------------------------------------
-- Cancelling
------------------------------------------------------------

/-
  One step towards a path without dots: a dot is dropped, a
  double dot cancels the name in front of it, or a double dot
  at the root of the file system is dropped.
-/
inductive Cancels : List Component → List Component → Prop
| current (front behind : List Component) :
    Cancels (front ++ .current :: behind) (front ++ behind)
| parent
    (front : List Component)
    (name : List Char)
    (behind : List Component) :
    Cancels (front ++ .name name :: .parent :: behind)
      (front ++ behind)
| top (behind : List Component) :
    Cancels (.parent :: behind) behind

/- Which names are left of components below the root. -/
def LeadsTo
    (cs : List Component)
    (ns : List (List Char)) : Prop :=
  Relation.ReflTransGen Cancels cs (ns.map .name)

variable {cs ds : List Component}
variable {ns : List (List Char)}

/- A step does not change where components lead. -/
theorem foldl_follow_of_cancels
    (hStep : Cancels cs ds) :
    cs.foldl follow [] = ds.foldl follow [] := by
  cases hStep with
  | current front behind =>
      rw [List.foldl_append, List.foldl_append,
        List.foldl_cons]
      rfl
  | parent front name behind =>
      rw [List.foldl_append, List.foldl_append,
        List.foldl_cons, List.foldl_cons]
      rfl
  | top behind => rfl

theorem resolveDots_names
    (ns : List (List Char)) :
    resolveDots (ns.map .name) = ns := by
  unfold resolveDots
  rw [foldl_follow_names, List.append_nil,
    List.reverse_reverse]

theorem eq_of_leadsTo
    (hLeads : LeadsTo cs ns) : ns = resolveDots cs := by
  rw [← resolveDots_names ns]
  unfold resolveDots
  congr 1
  unfold LeadsTo at hLeads
  induction hLeads using
      Relation.ReflTransGen.head_induction_on with
  | refl => rfl
  | head hStep _ ih =>
      rw [ih, foldl_follow_of_cancels hStep]

/-
  By induction on the components behind a location, which
  holds the names that are left of those in front.
-/
theorem cancels_foldl_follow
    (hRelative : ∀ c ∈ cs, c ≠ .root)
    (location : List (List Char)) :
    Relation.ReflTransGen Cancels
      (location.reverse.map .name ++ cs)
      ((cs.foldl follow location).reverse.map .name) := by
  induction cs generalizing location with
  | nil =>
      rw [List.append_nil]
      exact .refl
  | cons c cs ih =>
      rcases List.forall_mem_cons.1 hRelative with
        ⟨hComponent, hLater⟩
      rw [List.foldl_cons]
      cases c with
      | root => exact absurd rfl hComponent
      | current =>
          exact .head (.current _ cs) (ih hLater location)
      | parent =>
          cases location with
          | nil => exact .head (.top cs) (ih hLater [])
          | cons n location =>
              have hStep :=
                Cancels.parent (location.reverse.map .name) n cs
              rw [List.reverse_cons, List.map_append,
                List.append_assoc]
              exact .head hStep (ih hLater location)
      | name n =>
          have hRest := ih hLater (n :: location)
          rw [List.reverse_cons, List.map_append,
            List.append_assoc] at hRest
          exact hRest

/- Components lead to one list of names. -/
theorem leadsTo_iff
    (hRelative : ∀ c ∈ cs, c ≠ .root) :
    LeadsTo cs ns ↔ ns = resolveDots cs := by
  constructor
  · exact eq_of_leadsTo
  · rintro rfl
    exact cancels_foldl_follow hRelative []

------------------------------------------------------------
-- Absolute Paths
------------------------------------------------------------

/- Dots make no difference to where pieces lead. -/
theorem foldl_follow_written
    (pieces location : List (List Char)) :
    ((pieces.filter fun piece => piece ≠ []).map
        Component.ofWritten).foldl follow location =
      (ofPieces pieces).foldl follow location := by
  induction pieces generalizing location with
  | nil => rfl
  | cons piece pieces ih =>
      unfold ofPieces at ih ⊢
      by_cases hNil : piece = []
      · subst hNil
        exact ih location
      by_cases hDot : piece = ['.']
      · subst hDot
        exact ih location
      · have hTrivial : isTrivial piece = false := by
          simp [isTrivial, hNil, hDot]
        rw [List.filter_cons_of_pos (by simpa using hNil),
          List.filter_cons_of_pos (by simp [hTrivial]),
          List.map_cons, List.map_cons, List.foldl_cons,
          List.foldl_cons, ih]
        unfold Component.ofWritten
        rw [if_neg hDot]

/- The names along an absolute path are those it leads to. -/
theorem names_eq_resolveDots
    {path : String}
    (hPath : isAbsolute path = true) :
    names path = resolveDots (written path) := by
  unfold isAbsolute at hPath
  rw [beq_iff_eq] at hPath
  rcases List.head?_eq_some_iff.1 hPath with ⟨body, hText⟩
  have hBody : writtenIn ('/' :: body) = writtenIn body :=
    writtenIn_append [] body
  unfold names written components resolveDots
  rw [hText, componentsOf_slash, hBody]
  unfold writtenIn
  rw [foldl_follow_written]
  rfl

/- A path is written behind the directory it is seen from. -/
theorem written_join
    {directory path : String}
    (hDirectory : isAbsolute directory = true)
    (hPath : isAbsolute path = false) :
    written (join directory path) =
      written directory ++ written path := by
  unfold join written
  rw [if_neg (by simp [hPath])]
  split
  · rename_i hEnd
    have hLast : directory.toList.getLast? = some '/' := by
      rcases hEnd with rfl | hLast
      · exact nomatch hDirectory
      · exact hLast
    rcases List.getLast?_eq_some_iff.1 hLast with
      ⟨front, hText⟩
    rw [String.toList_append, hText, List.append_assoc]
    have hFront : writtenIn (front ++ ['/']) =
        writtenIn front :=
      (writtenIn_append front []).trans (List.append_nil _)
    rw [hFront]
    exact writtenIn_append front path.toList
  · rw [String.toList_append, String.toList_append,
      List.append_assoc]
    exact writtenIn_append directory.toList path.toList

------------------------------------------------------------
-- Below A Root
------------------------------------------------------------

/- Where a path leads that is seen from a root. -/
theorem names_join_trimmed
    {root : String}
    (hRoot : isAbsolute root = true)
    (path : String) :
    names (join root
        (String.ofList (path.toList.dropWhile (· == '/')))) =
      resolveDots (written root ++ written path) := by
  have hJoined := isAbsolute_join_of_isAbsolute hRoot
    (String.ofList (path.toList.dropWhile (· == '/')))
  rw [names_eq_resolveDots hJoined,
    written_join hRoot (isAbsolute_dropWhile path)]
  unfold written
  rw [String.toList_ofList, writtenIn_dropWhile]

/- What components of an absolute path lead to are names. -/
theorem isName_resolveDots_written
    {root : String}
    (hRoot : isAbsolute root = true)
    (path : String) :
    ∀ n ∈ resolveDots (written root ++ written path),
      IsName n := by
  rw [← names_join_trimmed hRoot path]
  exact isName_names (isAbsolute_join_of_isAbsolute hRoot _)

/- What is resolved, and when, in terms of names. -/
theorem resolveUnder_eq_ite
    {root : String}
    (hRoot : isAbsolute root = true)
    (path : String) :
    resolveUnder root path =
      let names := resolveDots (written root ++ written path)
      if resolveDots (written root) <+: names then
        some (ofNames names)
      else none := by
  have hJoined := isAbsolute_join_of_isAbsolute hRoot
    (String.ofList (path.toList.dropWhile (· == '/')))
  have hBelow :=
    isAtOrBelow_ofNames (isName_names hRoot)
      (isName_resolveDots_written hRoot path)
  rw [names_eq_resolveDots hRoot] at hBelow
  unfold resolveUnder normalize
  dsimp only
  rw [if_pos hJoined, if_pos hRoot,
    names_join_trimmed hRoot path, names_eq_resolveDots hRoot]
  by_cases hPrefix :
      resolveDots (written root) <+:
        resolveDots (written root ++ written path)
  · rw [if_pos (hBelow.2 hPrefix), if_pos hPrefix]
  · rw [if_neg fun h => hPrefix (hBelow.1 h),
      if_neg hPrefix]

/- Slashes in front of a path do not matter. -/
theorem resolveUnder_slashes
    (root path : String)
    (count : Nat) :
    resolveUnder root
        (String.ofList (List.replicate count '/') ++ path) =
      resolveUnder root path := by
  have hSame :
      (String.ofList (List.replicate count '/') ++
          path).toList.dropWhile (· == '/') =
        path.toList.dropWhile (· == '/') := by
    rw [String.toList_append, String.toList_ofList]
    induction count with
    | zero => rfl
    | succ count ih =>
        rw [List.replicate_succ, List.cons_append,
          List.dropWhile_cons_of_pos rfl, ih]
  unfold resolveUnder
  rw [hSame]

/- A longer name is another name. -/
theorem not_prefix_of_longer_name
    {front rest : List (List Char)}
    {name more : List Char}
    (hMore : more ≠ []) :
    ¬front ++ [name] <+: front ++ (name ++ more) :: rest := by
  intro hPrefix
  have hName :=
    (List.cons_prefix_cons.1
      ((List.prefix_append_right_inj front).1 hPrefix)).1
  exact hMore (List.self_eq_append_right.1 hName)

/-
  A path below an absolute root is resolved to the names that
  are left of the components of the root and then its own,
  and only if they begin with those that are left of the root.
  Such a place has no dots, and it stays as it is when it is
  normalized.  Slashes in front of the path do not matter, and
  a name that goes on behind that of the root is refused.
-/
theorem resolveUnder_of_isAbsolute
    {root : String}
    (hRoot : isAbsolute root = true)
    (path : String) :
    ∃ base names,
      (∀ ns, LeadsTo (written root) ns ↔ ns = base) ∧
      (∀ ns, LeadsTo (written root ++ written path) ns ↔
        ns = names) ∧
      components (normalize root) =
        .root :: base.map .name ∧
      resolveUnder root path =
        (if base <+: names then some (ofNames names)
        else none) ∧
      (∀ n ∈ names, IsName n) ∧
      components (ofNames names) =
        .root :: names.map .name ∧
      normalize (ofNames names) = ofNames names ∧
      (∀ count,
        resolveUnder root
            (String.ofList (List.replicate count '/') ++
              path) =
          resolveUnder root path) ∧
      (∀ front name more rest,
        base = front ++ [name] → more ≠ [] →
        names = front ++ (name ++ more) :: rest →
        resolveUnder root path = none) := by
  have hBase : ∀ c ∈ written root, c ≠ .root :=
    fun _ => ne_root_of_mem_writtenIn
  have hAll : ∀ c ∈ written root ++ written path,
      c ≠ .root :=
    List.forall_mem_append.2
      ⟨hBase, fun _ => ne_root_of_mem_writtenIn⟩
  have hNames := isName_resolveDots_written hRoot path
  have hResolve := resolveUnder_eq_ite hRoot path
  refine ⟨resolveDots (written root),
    resolveDots (written root ++ written path),
    fun _ => leadsTo_iff hBase, fun _ => leadsTo_iff hAll,
    ?_, hResolve, hNames, components_ofNames hNames,
    normalize_ofNames hNames,
    resolveUnder_slashes root path, ?_⟩
  · unfold normalize
    rw [if_pos hRoot, components_ofNames (isName_names hRoot),
      names_eq_resolveDots hRoot]
  · intro front name more rest hFront hMore hLonger
    rw [hResolve, hFront, hLonger]
    exact if_neg (not_prefix_of_longer_name hMore)

/- A sibling of a root, and a way out of the root and back. -/
theorem resolveUnder_of_isAbsolute_sibling :
    let root := "/srv/./data/"
    let srv := "srv".toList
    let data := "data".toList
    isAbsolute root = true ∧
    LeadsTo (written root) [srv, data] ∧
    LeadsTo (written root ++ written "//a/../../data2")
      [srv, data ++ ['2']] ∧
    resolveUnder root "//a/../../data2" = none ∧
    resolveUnder root "..//data/./b" = some "/srv/data/b" := by
  intro root srv data
  have hRoot : isAbsolute root = true := by decide
  rcases resolveUnder_of_isAbsolute hRoot "//a/../../data2"
    with ⟨base, names, hBase, hNames, _, _, _, _, _, _, hNone⟩
  rcases resolveUnder_of_isAbsolute hRoot "..//data/./b" with
    ⟨first, second, hFirst, hSecond, _, hResolve, _⟩
  have hRooted : LeadsTo (written root) [srv, data] :=
    (leadsTo_iff (by decide)).2 (by decide)
  have hAstray :
      LeadsTo (written root ++ written "//a/../../data2")
        [srv, data ++ ['2']] :=
    (leadsTo_iff (by decide)).2 (by decide)
  have hBack :
      LeadsTo (written root ++ written "..//data/./b")
        [srv, data, ['b']] :=
    (leadsTo_iff (by decide)).2 (by decide)
  refine ⟨hRoot, hRooted, hAstray, ?_, ?_⟩
  · exact hNone [srv] data ['2'] []
      ((hBase _).1 hRooted).symm (List.cons_ne_nil _ _)
      ((hNames _).1 hAstray).symm
  · rw [hResolve, ← (hFirst _).1 hRooted,
      ← (hSecond _).1 hBack]
    decide

end Path

end TreeKeeper
