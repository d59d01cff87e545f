import TreeKeeper.Text.Dictionary

/-
  File trees: the objects at locations below a root.  Each
  location holds one object, and every object lies in the
  root or in a directory of the tree.  What the system counts
  and times by itself is recorded with each object, and no
  operation on the tree moves it.

  Key definitions include:
    * `Attributes`
    * `FileObject`
    * `Location`
    * `FileTree`
    * `FileTree.find?`
    * `FileTree.put?`
    * `FileTree.erase?`
    * `FileTree.children`
-/

------------------------------------------------------------
-- Objects And Locations
------------------------------------------------------------

namespace TreeKeeper

/-
  What is recorded of an object besides what it holds.  Of
  the extended attributes those count whose names are texts,
  with their values as texts.
-/
structure Attributes where
  permissions : UInt32 := 0
  uid : UInt32 := 0
  gid : UInt32 := 0
  ino : UInt64 := 0
  nlink : UInt64 := 1
  blocks : UInt64 := 0
  atime : Int64 := 0
  mtime : Int64 := 0
  ctime : Int64 := 0
  xattrs : Dictionary String := Dictionary.empty
deriving DecidableEq

/- A directory is said to have a number of bytes, too. -/
structure DirectoryAttributes extends Attributes where
  size : UInt64 := 4096
deriving DecidableEq

/- The kinds of objects that hold nothing themselves. -/
inductive SpecialKind where
| fifo
| socket
| block
| character
deriving DecidableEq

/- An object of a file tree. -/
inductive FileObject where
| file (attributes : Attributes) (text : String)
| directory (attributes : DirectoryAttributes)
| symlink (attributes : Attributes) (target : String)
| special (attributes : Attributes) (kind : SpecialKind)
deriving DecidableEq

namespace FileObject

/- Whether an object is a directory. -/
def isDirectory : FileObject → Bool
| directory _ => true
| _ => false

/- What is recorded of an object. -/
def attributes : FileObject → Attributes
| file attributes _ => attributes
| directory attributes => attributes.toAttributes
| symlink attributes _ => attributes
| special attributes _ => attributes

end FileObject

/- The names on the way from the root to an object. -/
abbrev Location := List String

------------------------------------------------------------
-- Trees
------------------------------------------------------------

/- Whether a location is the root or a listed directory. -/
def IsDirectoryIn
    (objects : List (Location × FileObject))
    (location : Location) : Prop :=
  location = [] ∨
    ∃ object, (location, object) ∈ objects ∧
      object.isDirectory = true

/- The objects of a file tree, the root apart. -/
structure FileTree where
  objects : List (Location × FileObject)
  distinct : (objects.map Prod.fst).Nodup
  nested :
    ∀ p ∈ objects,
      p.1 ≠ [] ∧ IsDirectoryIn objects p.1.dropLast

namespace FileTree

/- The tree that holds nothing but its root. -/
def empty : FileTree where
  objects := []
  distinct := List.nodup_nil
  nested := fun _ h => absurd h List.not_mem_nil

instance : Inhabited FileTree := ⟨empty⟩

/- The object at a location other than the root. -/
def find?
    (tree : FileTree)
    (location : Location) : Option FileObject :=
  tree.objects.lookup location

/- What is recorded of a directory that is new. -/
def newDirectory : DirectoryAttributes :=
  { permissions := 0o755 }

/- What is recorded of a file that is new. -/
def newFile : Attributes :=
  { permissions := 0o644 }

/- What is recorded of a symbolic link that is new. -/
def newLink : Attributes :=
  { permissions := 0o777 }

/- The object that stands for the root. -/
def rootObject : FileObject :=
  .directory newDirectory

/- The object at a location. -/
def object?
    (tree : FileTree)
    (location : Location) : Option FileObject :=
  if location = [] then some rootObject
  else tree.find? location

/- Whether a location holds a directory. -/
def hasDirectory
    (tree : FileTree)
    (location : Location) : Bool :=
  (tree.object? location).any FileObject.isDirectory

/- What a directory holds, with the names in it. -/
def children
    (tree : FileTree)
    (location : Location) : List (String × FileObject) :=
  tree.objects.filterMap fun p =>
    match p.1.getLast? with
    | some name =>
        if p.1.dropLast = location then some (name, p.2)
        else none
    | none => none

/- Whether something lies directly in a location. -/
def hasChild
    (tree : FileTree)
    (location : Location) : Bool :=
  tree.objects.any fun p => p.1.dropLast == location

/- The objects at other locations than a given one. -/
def others
    (objects : List (Location × FileObject))
    (location : Location) :
    List (Location × FileObject) :=
  objects.filter fun p => p.1 ≠ location

------------------------------------------------------------
-- Lookup
------------------------------------------------------------

/- What is found at a location is one of the objects. -/
theorem mem_of_lookup
    {objects : List (Location × FileObject)}
    {location : Location}
    {object : FileObject}
    (h : objects.lookup location = some object) :
    (location, object) ∈ objects := by
  induction objects with
  | nil => rw [List.lookup_nil] at h; cases h
  | cons p rest ih =>
      rcases p with ⟨l, o⟩
      rw [List.lookup_cons] at h
      split at h
      · rename_i heq
        have hl : location = l := by simpa using heq
        have ho : o = object := by simpa using h
        rw [hl, ho]
        exact List.mem_cons_self
      · exact List.mem_cons_of_mem _ (ih h)

/- Directories are directories of the list of objects. -/
theorem isDirectoryIn_of_hasDirectory
    {tree : FileTree}
    {location : Location}
    (h : tree.hasDirectory location = true) :
    IsDirectoryIn tree.objects location := by
  unfold hasDirectory object? at h
  split at h
  · rename_i heq
    exact Or.inl heq
  · cases ho : tree.find? location with
    | none => rw [ho] at h; simp at h
    | some object =>
        rw [ho] at h
        exact Or.inr
          ⟨object, mem_of_lookup ho, by simpa using h⟩

------------------------------------------------------------
-- Putting And Erasing
------------------------------------------------------------

/- The locations of the others are distinct. -/
theorem nodup_others
    {objects : List (Location × FileObject)}
    (location : Location)
    (h : (objects.map Prod.fst).Nodup) :
    ((others objects location).map Prod.fst).Nodup :=
  List.Nodup.sublist
    ((List.filter_sublist).map Prod.fst) h

/- A location is not one of the others. -/
theorem not_mem_others
    (objects : List (Location × FileObject))
    (location : Location) :
    location ∉ (others objects location).map Prod.fst := by
  intro h
  rcases List.mem_map.1 h with ⟨p, hp, heq⟩
  have := (List.mem_filter.1 hp).2
  simp [heq] at this

/-
  Whether an object may take the place of what is at a
  location: a directory only that of a directory, and the
  same for anything else.
-/
def mayReplace
    (tree : FileTree)
    (location : Location)
    (object : FileObject) : Bool :=
  tree.objects.all fun p =>
    p.1 != location ||
      p.2.isDirectory == object.isDirectory

/- Directories stay directories when an object is put. -/
theorem isDirectoryIn_put
    {tree : FileTree}
    {location other : Location}
    {object : FileObject}
    (hOld : tree.mayReplace location object = true)
    (h : IsDirectoryIn tree.objects other) :
    IsDirectoryIn
      ((location, object) :: others tree.objects location)
      other := by
  rcases h with h | ⟨o, hMem, hDir⟩
  · exact Or.inl h
  · by_cases heq : other = location
    · subst heq
      have hSame := List.all_eq_true.1 hOld _ hMem
      simp only [bne_self_eq_false, Bool.false_or,
        beq_iff_eq] at hSame
      exact Or.inr
        ⟨object, List.mem_cons_self, hSame ▸ hDir⟩
    · right
      refine ⟨o, List.mem_cons_of_mem _ ?_, hDir⟩
      exact List.mem_filter.2 ⟨hMem, by simpa using heq⟩

/-
  Put an object into a directory, in place of an object of
  its own sort if there is one.
-/
def put?
    (tree : FileTree)
    (location : Location)
    (object : FileObject) : Option FileTree :=
  if h : location ≠ [] ∧
      tree.hasDirectory location.dropLast = true ∧
      tree.mayReplace location object = true then
    some {
      objects :=
        (location, object) :: others tree.objects location
      distinct :=
        List.nodup_cons.2
          ⟨not_mem_others _ _,
            nodup_others _ tree.distinct⟩
      nested := by
        intro p hp
        rcases List.mem_cons.1 hp with hp | hp
        · subst hp
          exact ⟨h.1, isDirectoryIn_put h.2.2
            (isDirectoryIn_of_hasDirectory h.2.1)⟩
        · have hn := tree.nested p (List.mem_filter.1 hp).1
          exact ⟨hn.1, isDirectoryIn_put h.2.2 hn.2⟩ }
  else none

/- Directories stay while nothing in them is erased. -/
theorem isDirectoryIn_others
    {tree : FileTree}
    {location : Location}
    (hChild : tree.hasChild location = false)
    {p : Location × FileObject}
    (hp : p ∈ tree.objects)
    (h : IsDirectoryIn tree.objects p.1.dropLast) :
    IsDirectoryIn (others tree.objects location)
      p.1.dropLast := by
  rcases h with h | ⟨o, hMem, hDir⟩
  · exact Or.inl h
  · refine Or.inr ⟨o, List.mem_filter.2 ⟨hMem, ?_⟩, hDir⟩
    have hne : p.1.dropLast ≠ location := by
      intro heq
      have := List.any_eq_false.1 hChild p hp
      exact this (by simpa using heq)
    simpa using hne

/- Erase an object that holds nothing. -/
def erase?
    (tree : FileTree)
    (location : Location) : Option FileTree :=
  if h : tree.hasChild location = false then
    some {
      objects := others tree.objects location
      distinct := nodup_others _ tree.distinct
      nested := by
        intro p hp
        have hMem := (List.mem_filter.1 hp).1
        have hn := tree.nested p hMem
        exact ⟨hn.1, isDirectoryIn_others h hMem hn.2⟩ }
  else none

end FileTree

end TreeKeeper
