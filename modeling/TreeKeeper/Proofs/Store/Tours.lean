import TreeKeeper.FileTree.Listing
import TreeKeeper.Proofs.Store.Walks

/-
  The answers of directory stores.  A query that asks for
  everything gives the objects at and below the root, each of
  them once, in the order of a tour, and each entry is read
  again as it was given.  The paths of all objects have to be
  short enough for the system.  A path that is too long is
  left out, also if the directory that holds it is listed.

  Key definitions include:
    * `DirectoryStore.pathBelow`

  Main declarations:
    * `Results.answers_of_all`
    * `DirectoryStore.query_gives_tour`
    * `DirectoryStore.query_misses_deep`
-/

------------------------------------------------------------
-- Queries
------------------------------------------------------------

namespace TreeKeeper

/- A query that asks for everything answers with all of it. -/
theorem Results.answers_of_all
    {σ : Type} [Source σ]
    {files : FileTree → Location → Prop}
    {source : σ}
    {entries : List Entry}
    {world : World}
    {worlds : List World}
    (hGives :
      Source.Gives files (Readings.ofEntries entries none)
        source)
    (hWorld : files world.tree world.directory)
    (hWorlds :
      ∀ later ∈ worlds, files later.tree later.directory) :
    Results.answers worlds
        (Results.start source none {} {} world).1 =
      Results.firstOf worlds.length
        (entries.map .entry) := by
  have hPromises :=
    Results.promises_start hGives none {} {} hWorld
  have hAll :
      ((Readings.ofEntries entries none).legible
          false).filter (Filter.admits none) = entries := by
    rw [Readings.legible_ofEntries]
    exact List.filter_eq_self.2 fun _ _ => rfl
  rw [hAll, Entry.sortBy_nil, List.drop_zero,
    Readings.fault?_ofEntries] at hPromises
  have hOutcome :
      Results.outcome {} none entries none =
        entries.map .entry :=
    List.append_nil _
  rcases Results.start_asks source none {} {} world with
    ⟨hRemaining, hProjection⟩
  rw [Results.answers_of_promises hPromises hWorlds,
    hRemaining, hProjection]
  exact congrArg _ hOutcome

namespace DirectoryStore

variable {store : DirectoryStore}
variable {path : String}
variable {opened world : World}
variable {base : Location}
variable {object : FileObject}

/- The path of an object below the root of a store. -/
def pathBelow
    (store : DirectoryStore)
    (names : Location) : String :=
  Path.ofNames
    (Path.names store.root ++ names.map String.toList)

theorem pathBelow_eq
    {root : Location}
    (hRoot : store.IsRootedAt root)
    (names : Location) :
    store.pathBelow names = pathOf (root ++ names) := by
  unfold pathBelow
  rw [hRoot.root_eq]
  unfold pathOf
  rw [Path.names_ofNames hRoot.named.toTexts, List.map_append]

/- What a store serves whose objects can be looked at. -/
theorem exists_serves
    (hOpen : DirectoryStore.open path opened = .ok store)
    (hRoot :
      world.tree.objectAt false world.directory store.root =
        .ok (base, object))
    (hNamed : ∀ names found,
      world.tree.find? (base ++ names) = some found →
        Location.IsNamed names)
    (hReadable : ∀ names found,
      world.tree.object? (base ++ names) = some found →
        (world.tree.look world.directory
          (store.pathBelow names)).isOk = true) :
    ∃ root,
      store.Serves world.tree world.directory root base
        object := by
  rcases exists_isRootedAt_of_open hOpen with ⟨root, hRooted⟩
  refine ⟨root, hRooted, ?_, hNamed, ?_⟩
  · rw [← hRooted.root_eq]
    exact hRoot
  · intro names found hFound
    rw [← pathBelow_eq hRooted]
    exact hReadable names found hFound

/- Objects can be looked at by paths that the system takes. -/
theorem readable_of_fitsPath
    (hOpen : DirectoryStore.open path opened = .ok store)
    (hRoot :
      world.tree.objectAt false world.directory store.root =
        .ok (base, object))
    (hNamed : ∀ names found,
      world.tree.find? (base ++ names) = some found →
        Location.IsNamed names)
    (hShort : ∀ names found,
      world.tree.find? (base ++ names) = some found →
        ∀ name ∈ names,
          name.utf8ByteSize ≤ FileTree.nameLimit)
    (hFits : ∀ names found,
      world.tree.find? (base ++ names) = some found →
        FileTree.FitsPath (store.pathBelow names))
    (names : Location)
    (found : FileObject)
    (hFound :
      world.tree.object? (base ++ names) = some found) :
    (world.tree.look world.directory
      (store.pathBelow names)).isOk = true := by
  rcases exists_isRootedAt_of_open hOpen with ⟨root, hRooted⟩
  rw [hRooted.root_eq] at hRoot
  rw [pathBelow_eq hRooted]
  by_cases hNames : names = []
  · rw [hNames, List.append_nil,
      FileTree.look_of_objectAt hRoot]
    rfl
  · rw [FileTree.object?_append hNames] at hFound
    have hFit := hFits names found hFound
    rw [pathBelow_eq hRooted] at hFit
    rcases FileTree.hasDirectory_iff.1
        (FileTree.hasDirectory_of_below hNames hFound) with
      ⟨data, hListed⟩
    rw [FileTree.object?_of_objectAt hRoot] at hListed
    cases hListed
    have hBase :=
      FileTree.objectAt_true hRooted.named hRoot rfl
    rw [FileTree.look_of_objectAt
      (FileTree.objectAt_of_find? hRooted.named
        (hNamed names found hFound) hNames
        (hShort names found hFound) hFit hBase hFound nofun)]
    rfl

/-
  All entries of a store, where every object below its root
  has a name that may be one, and a path that the system takes.
  However often and late a query is asked, it gives a tour of
  these objects.  As long as nothing about the objects changes,
  neither what they hold nor what is recorded of them, each
  entry is read again as it was given.
-/
theorem query_gives_tour
    (hOpen : DirectoryStore.open path opened = .ok store)
    (hRoot :
      world.tree.objectAt false world.directory store.root =
        .ok (base, object))
    (hNamed : ∀ names found,
      world.tree.find? (base ++ names) = some found →
        Location.IsNamed names)
    (hShort : ∀ names found,
      world.tree.find? (base ++ names) = some found →
        ∀ name ∈ names,
          name.utf8ByteSize ≤ FileTree.nameLimit)
    (hFits : ∀ names found,
      world.tree.find? (base ++ names) = some found →
        FileTree.FitsPath (store.pathBelow names)) :
    ∃ tour : List (Location × FileObject),
      world.tree.IsTour base tour ∧
      (∃ results,
        store.query none {} {} world = (.ok results, world) ∧
        ∀ worlds : List World,
          (∀ later ∈ worlds, later.tree = world.tree ∧
            later.directory = world.directory) →
          Results.answers worlds results =
            Results.firstOf worlds.length
              (tour.map fun v =>
                .entry (v.2.entry (pathOf v.1)))) ∧
      ∀ later : World,
        later.tree = world.tree →
        later.directory = world.directory →
        ∀ v ∈ tour,
          store.fresh (v.2.entry (pathOf v.1)) later =
            .ok (some (v.2.entry (pathOf v.1))) := by
  rcases exists_serves hOpen hRoot hNamed
      (readable_of_fitsPath hOpen hRoot hNamed hShort
        hFits) with
    ⟨root, hServes⟩
  rcases Walk.exists_tour_of_start hServes with
    ⟨tour, hTour, hGives⟩
  refine ⟨tour, hTour, ?_, ?_⟩
  · refine ⟨_, hServes.query none {} {},
      fun worlds hWorlds => ?_⟩
    rw [Results.answers_of_all hGives ⟨rfl, rfl⟩ hWorlds]
    unfold Walk.entriesOf
    rw [List.map_map]
    rfl
  · rintro ⟨_, _, log⟩ rfl rfl ⟨names, found⟩ hMember
    exact hServes.fresh ((hTour.complete _ _).1 hMember)

/- What holds of all objects below a place holds there. -/
theorem forall_found_of_objects
    (property : Location → Prop)
    (hAll : ∀ p ∈ world.tree.objects,
      base <+: p.1 → property (p.1.drop base.length))
    (names : Location)
    (found : FileObject)
    (hFound :
      world.tree.find? (base ++ names) = some found) :
    property names := by
  have hHolds :=
    hAll _ (FileTree.mem_of_lookup hFound)
      (List.prefix_append base names)
  rw [List.drop_left] at hHolds
  exact hHolds

/- It is enough to look at the objects of the tree. -/
theorem readable_of_objects
    (hRoot :
      world.tree.look world.directory (store.pathBelow []) =
        .ok object)
    (hAll : ∀ p ∈ world.tree.objects,
      base <+: p.1 →
        (world.tree.look world.directory
          (store.pathBelow (p.1.drop base.length))).isOk =
            true)
    (names : Location)
    (found : FileObject)
    (hFound :
      world.tree.object? (base ++ names) = some found) :
    (world.tree.look world.directory
      (store.pathBelow names)).isOk = true := by
  by_cases hNames : names = []
  · rw [hNames, hRoot]
    rfl
  · rw [FileTree.object?_append hNames] at hFound
    exact forall_found_of_objects
      (fun names =>
        (world.tree.look world.directory
          (store.pathBelow names)).isOk = true)
      hAll names found hFound

/- A directory with another one, two files and a link. -/
def smallTree : World where
  tree :=
    ((FileTree.empty.plant ["data", "a", "x"]
      (.file FileTree.newFile "text")).plant ["data", "b"]
      (.file { permissions := 0o600, mtime := 7 } "")).plant
      ["data", "loop"] (.symlink FileTree.newLink "..")
  directory := ["data"]

theorem open_smallTree :
    DirectoryStore.open "." smallTree = .ok ⟨"/data"⟩ := by
  have hLook :
      smallTree.tree.look smallTree.directory "/data" =
        .ok (.directory FileTree.newDirectory) := by
    decide +kernel
  exact open_of_look (by decide +kernel) hLook

theorem root_smallTree :
    smallTree.tree.objectAt false smallTree.directory
        "/data" =
      .ok (["data"], .directory FileTree.newDirectory) := by
  decide +kernel

theorem named_smallTree :
    ∀ names found,
      smallTree.tree.find? (["data"] ++ names) = some found →
        Location.IsNamed names :=
  forall_found_of_objects _ (by decide +kernel)

theorem short_smallTree :
    ∀ names found,
      smallTree.tree.find? (["data"] ++ names) = some found →
        ∀ name ∈ names,
          name.utf8ByteSize ≤ FileTree.nameLimit :=
  forall_found_of_objects _ (by decide +kernel)

theorem fitsPath_smallTree :
    ∀ names found,
      smallTree.tree.find? (["data"] ++ names) = some found →
        FileTree.FitsPath
          ((⟨"/data"⟩ : DirectoryStore).pathBelow names) :=
  forall_found_of_objects _ (by decide +kernel)

theorem readable_smallTree :
    ∀ names found,
      smallTree.tree.object? (["data"] ++ names) =
          some found →
        (smallTree.tree.look smallTree.directory
          ((⟨"/data"⟩ : DirectoryStore).pathBelow
            names)).isOk = true :=
  readable_of_fitsPath open_smallTree root_smallTree
    named_smallTree short_smallTree fitsPath_smallTree

theorem query_gives_tour_small :
    ∃ tour : List (Location × FileObject),
      smallTree.tree.IsTour ["data"] tour ∧
      (∃ results,
        (⟨"/data"⟩ : DirectoryStore).query none {} {}
            smallTree =
          (.ok results, smallTree) ∧
        ∀ worlds : List World,
          (∀ later ∈ worlds, later.tree = smallTree.tree ∧
            later.directory = smallTree.directory) →
          Results.answers worlds results =
            Results.firstOf worlds.length
              (tour.map fun v =>
                .entry (v.2.entry (pathOf v.1)))) ∧
      ∀ v ∈ tour,
        (⟨"/data"⟩ : DirectoryStore).fresh
            (v.2.entry (pathOf v.1)) smallTree =
          .ok (some (v.2.entry (pathOf v.1))) := by
  rcases query_gives_tour open_smallTree root_smallTree
      named_smallTree short_smallTree fitsPath_smallTree with
    ⟨tour, hTour, hAnswers, hFresh⟩
  exact ⟨tour, hTour, hAnswers, hFresh smallTree rfl rfl⟩

------------------------------------------------------------
-- Paths That Are Too Long
------------------------------------------------------------

/- A name made of one letter. -/
def repeated (letter : Char) (count : Nat) : String :=
  String.ofList (List.replicate count letter)

theorem isName_repeated
    {letter : Char}
    {count : Nat}
    (hLetter : letter ≠ '/')
    (hCount : 2 < count) :
    Path.IsName (repeated letter count).toList := by
  have hLong {text : List Char}
      (hShort : text.length ≤ 2) :
      List.replicate count letter ≠ text := by
    rintro rfl
    rw [List.length_replicate] at hShort
    exact absurd hCount (Nat.not_lt.2 hShort)
  unfold repeated
  rw [String.toList_ofList]
  refine ⟨hLong (Nat.zero_le _), hLong (by decide),
    hLong (by decide), fun hSlash => ?_⟩
  exact hLetter (List.eq_of_mem_replicate hSlash).symm

theorem utf8ByteSize_repeated
    (letter : Char)
    (count : Nat) :
    (repeated letter count).utf8ByteSize =
      count * letter.utf8Size := by
  unfold repeated
  induction count with
  | zero =>
      rw [Nat.zero_mul]
      rfl
  | succ count ih =>
      rw [List.replicate_succ, String.ofList_cons,
        String.utf8ByteSize_append,
        String.utf8ByteSize_singleton, ih, Nat.succ_mul,
        Nat.add_comm]

theorem no_zero_repeated
    {letter : Char}
    {count : Nat}
    (hLetter : letter ≠ '\x00') :
    '\x00' ∉ (repeated letter count).toList := by
  unfold repeated
  rw [String.toList_ofList]
  exact fun hZero =>
    hLetter (List.eq_of_mem_replicate hZero).symm

/- The longest names of two letters. -/
def loopName : String :=
  repeated 'l' FileTree.nameLimit

def deepName : String :=
  repeated 'f' FileTree.nameLimit

theorem size_loopName : loopName.utf8ByteSize = 255 :=
  utf8ByteSize_repeated 'l' 255

theorem size_deepName : deepName.utf8ByteSize = 255 :=
  utf8ByteSize_repeated 'f' 255

theorem isName_loopName : Path.IsName loopName.toList :=
  isName_repeated (by decide) (by decide)

theorem isName_deepName : Path.IsName deepName.toList :=
  isName_repeated (by decide) (by decide)

theorem loopName_ne : "d" ≠ loopName := by
  intro hSame
  have hSize := size_loopName
  rw [← hSame] at hSize
  exact absurd hSize (by decide)

/-
  A directory with one file, and beside it a link that leads
  back to where it lies.
-/
def deepTree : World where
  tree := {
    objects :=
      [(["d"], .directory FileTree.newDirectory),
        (["d", deepName], .file FileTree.newFile ""),
        ([loopName], .symlink FileTree.newLink ".")]
    distinct := by simp [loopName_ne]
    nested := by
      simp [IsDirectoryIn, FileObject.isDirectory] }

/- The way to this directory, through the link each time. -/
def deepRoot : Location :=
  List.replicate 15 loopName ++ ["d"]

theorem mem_deepRoot
    {name : String}
    (hName : name ∈ deepRoot) :
    name = loopName ∨ name = "d" := by
  unfold deepRoot at hName
  rcases List.mem_append.1 hName with hLoop | hLast
  · exact .inl (List.eq_of_mem_replicate hLoop)
  · exact .inr (List.mem_singleton.1 hLast)

theorem isNamed_deepRoot : deepRoot.IsNamed := by
  intro name hName
  rcases mem_deepRoot hName with rfl | rfl
  · exact isName_loopName
  · decide

theorem bytes_deepRoot :
    (deepRoot.map fun name => name.utf8ByteSize + 1).sum =
      3842 := by
  unfold deepRoot
  rw [List.map_append, List.map_replicate, size_loopName,
    List.sum_append_nat, List.sum_replicate_nat]
  rfl

/- The way to the directory is short enough. -/
theorem fitsPath_deepRoot :
    FileTree.FitsPath (pathOf deepRoot) := by
  have hSome : deepRoot ≠ [] :=
    List.append_ne_nil_of_right_ne_nil _
      (List.cons_ne_nil _ _)
  refine (FileTree.fitsPath_pathOf_iff hSome).2 ⟨?_, ?_⟩
  · intro name hName
    rcases mem_deepRoot hName with rfl | rfl
    · exact no_zero_repeated (by decide)
    · decide
  · rw [bytes_deepRoot]
    decide

/- The way to its file is not. -/
theorem not_fitsPath_deepName :
    ¬FileTree.FitsPath
      (pathOf (deepRoot ++ [deepName])) := by
  rw [FileTree.fitsPath_pathOf_iff
    (List.append_ne_nil_of_right_ne_nil _
      (List.cons_ne_nil _ _)), List.map_append,
    List.sum_append_nat, bytes_deepRoot, List.map_singleton,
    size_deepName]
  exact fun hFits => absurd hFits.2 (by decide)

theorem find?_loopName :
    deepTree.tree.find? [loopName] =
      some (.symlink FileTree.newLink ".") := by
  have hOther : (loopName == "d") = false :=
    beq_false_of_ne loopName_ne.symm
  simp [deepTree, FileTree.find?, List.lookup_cons, hOther]

theorem objectAt_deepRoot :
    deepTree.tree.objectAt false [] (pathOf deepRoot) =
      .ok (["d"], .directory FileTree.newDirectory) := by
  have hWalk :
      deepTree.tree.walk false (25 + 15) [] deepRoot =
        deepTree.tree.walk false 25 [] ["d"] :=
    FileTree.walk_loops isName_loopName size_loopName.le
      find?_loopName (List.cons_ne_nil _ _) 15
  exact (FileTree.objectAt_pathOf_iff isNamed_deepRoot).2
    ⟨fitsPath_deepRoot, hWalk, rfl⟩

theorem children_deepTree :
    deepTree.tree.children ["d"] =
      [(deepName, .file FileTree.newFile "")] :=
  rfl

/- The store of the directory, by the way through the link. -/
def deepStore : DirectoryStore where
  root := pathOf deepRoot

theorem open_deepTree :
    DirectoryStore.open (pathOf deepRoot) deepTree =
      .ok deepStore := by
  have hRoot :
      Path.normalize
          (Path.join (pathOf []) (pathOf deepRoot)) =
        pathOf deepRoot := by
    have hAbsolute :
        Path.isAbsolute (pathOf deepRoot) = true :=
      Path.isAbsolute_ofNames _
    unfold Path.join
    rw [if_pos hAbsolute]
    exact Path.normalize_ofNames isNamed_deepRoot.toTexts
  exact open_of_look hRoot
    (FileTree.look_of_objectAt objectAt_deepRoot)

theorem list_deepTree :
    deepTree.tree.list [] (pathOf deepRoot) =
      .ok [(deepName, .file FileTree.newFile "")] := by
  rw [FileTree.list_of_objectAt
    (FileTree.objectAt_true isNamed_deepRoot
      objectAt_deepRoot rfl), children_deepTree]

/- The path of the file is too long to be looked at. -/
theorem look_deepName :
    (deepTree.tree.look []
      (Path.join (pathOf deepRoot) deepName)).isOk =
        false := by
  have hNamed : Location.IsNamed (deepRoot ++ [deepName]) :=
    isNamed_deepRoot.append
      (List.forall_mem_singleton.2 isName_deepName)
  rw [join_pathOf hNamed]
  unfold FileTree.look
  cases hObject :
      deepTree.tree.objectAt false []
        (pathOf (deepRoot ++ [deepName])) with
  | error fault => rfl
  | ok found =>
      exact absurd (FileTree.fitsPath_of_objectAt hObject)
        not_fitsPath_deepName

/-
  A file of a readable directory that a query leaves out: the
  path of the directory is taken, but not that of the file.
-/
theorem query_misses_deep :
    DirectoryStore.open (pathOf deepRoot) deepTree =
        .ok deepStore ∧
      (∀ p ∈ deepTree.tree.objects, ∀ name ∈ p.1,
        Path.IsName name.toList ∧
          name.utf8ByteSize ≤ FileTree.nameLimit) ∧
      deepTree.tree.objectAt false [] deepStore.root =
        .ok (["d"], .directory FileTree.newDirectory) ∧
      deepTree.tree.list [] deepStore.root =
        .ok [(deepName, .file FileTree.newFile "")] ∧
      ∃ results,
        deepStore.query none {} {} deepTree =
          (.ok results, deepTree) ∧
        ∀ worlds : List World,
          (∀ later ∈ worlds, later.tree = deepTree.tree ∧
            later.directory = []) →
          Results.answers worlds results =
            Results.firstOf worlds.length
              [.entry
                ((FileObject.directory
                  FileTree.newDirectory).entry "/")] := by
  have hFirst :
      Path.IsName "d".toList ∧
        "d".utf8ByteSize ≤ FileTree.nameLimit := by
    decide
  have hDeep :
      Path.IsName deepName.toList ∧
        deepName.utf8ByteSize ≤ FileTree.nameLimit :=
    ⟨isName_deepName, size_deepName.le⟩
  have hLoop :
      Path.IsName loopName.toList ∧
        loopName.utf8ByteSize ≤ FileTree.nameLimit :=
    ⟨isName_loopName, size_loopName.le⟩
  refine ⟨open_deepTree, ?_, objectAt_deepRoot,
    list_deepTree, ?_⟩
  · refine List.forall_mem_cons.2
      ⟨List.forall_mem_singleton.2 hFirst,
        List.forall_mem_cons.2
          ⟨List.forall_mem_cons.2
              ⟨hFirst, List.forall_mem_singleton.2 hDeep⟩,
            List.forall_mem_singleton.2
              (List.forall_mem_singleton.2 hLoop)⟩⟩
  · have hLook :
        deepTree.tree.look deepTree.directory
            deepStore.root =
          .ok (.directory FileTree.newDirectory) :=
      FileTree.look_of_objectAt objectAt_deepRoot
    refine ⟨_, query_of_look hLook none {} {},
      fun worlds hWorlds => ?_⟩
    exact Results.answers_of_all
      (Walk.gives_of_unseen list_deepTree
        (List.forall_mem_singleton.2 look_deepName))
      ⟨rfl, rfl⟩ hWorlds

end DirectoryStore

end TreeKeeper
