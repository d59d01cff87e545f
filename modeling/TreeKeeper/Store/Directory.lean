import TreeKeeper.Path.Basic
import TreeKeeper.Store.Results

/-
  Directory stores: the objects of a file tree at and below a
  root directory.  The paths of entries start at the root,
  and a path that leads out of it is refused.

  Key definitions include:
    * `DirectoryStore`
    * `DirectoryStore.open`
    * `Walk`
    * `Walk.next`
    * `DirectoryStore.remove`
-/

------------------------------------------------------------
-- Entries Of Objects
------------------------------------------------------------

namespace TreeKeeper

namespace FileObject

/- The kind of a special object. -/
def kindOf : SpecialKind → FileKind
| .fifo => .fifo
| .socket => .socket
| .block => .block
| .character => .character

/- The kind of an object. -/
def kind : FileObject → FileKind
| file _ _ => .file
| directory _ => .directory
| symlink _ _ => .symlink
| special _ kind => kindOf kind

/- The bits of a mode word that are permissions. -/
def permissionBits : UInt32 :=
  0o7777

/- The mode word: the bits of the kind and the permissions. -/
def modeWord (object : FileObject) : UInt32 :=
  object.kind.typeBits |||
    (object.attributes.permissions &&& permissionBits)

/- The number of bytes of a text. -/
def sizeOf (text : String) : UInt64 :=
  UInt64.ofNat text.utf8ByteSize

/- The number of bytes of an object. -/
def size : FileObject → UInt64
| file _ text => sizeOf text
| directory attributes => attributes.size
| symlink _ target => sizeOf target
| special _ _ => 0

/- What is read of an object, the kind from its mode word. -/
def stat (object : FileObject) : Stat where
  kind := FileKind.ofMode object.modeWord
  mode := object.modeWord &&& permissionBits
  size := object.size
  blocks := object.attributes.blocks
  uid := object.attributes.uid
  gid := object.attributes.gid
  ino := object.attributes.ino
  nlink := object.attributes.nlink
  atime := object.attributes.atime
  mtime := object.attributes.mtime
  ctime := object.attributes.ctime

/- Where a symbolic link leads. -/
def target? : FileObject → Option String
| symlink _ target => some target
| _ => none

/- The entry of an object with a given path. -/
def entry (object : FileObject) (path : String) : Entry :=
  { Entry.ofPath path object.stat with
    symlink := object.target?
    xattrs := object.attributes.xattrs }

end FileObject

------------------------------------------------------------
-- Walking
------------------------------------------------------------

/-
  A walk through a directory: the entries that are handed out
  next and the directories that are listed after them.
-/
structure Walk where
  root : String
  outputs : List Entry
  directories : List String

namespace Walk

/- Start a walk at an object. -/
def start (root : String) (object : FileObject) : Walk where
  root := root
  outputs := [object.entry "/"]
  directories := if object.isDirectory then [root] else []

/- The objects of a directory in the order of their names. -/
def sortChildren
    (children : List (String × FileObject)) :
    List (String × FileObject) :=
  children.mergeSort fun a b => a.1 ≤ b.1

/- The directories among the objects of a directory. -/
def subdirectories
    (directory : String)
    (children : List (String × FileObject)) :
    List String :=
  (children.filter fun c => c.2.isDirectory).map
    fun c => Path.join directory c.1

/- The entries of the objects of a directory. -/
def childEntries
    (root directory : String)
    (children : List (String × FileObject)) :
    List Entry :=
  children.filterMap fun c =>
    (Path.relativeTo root (Path.join directory c.1)).map
      c.2.entry

/-
  Look at the objects of a directory by their paths.  What
  cannot be looked at is left out.
-/
def inspect
    (directory : String) :
    List (String × FileObject) → World →
      List (String × FileObject) × World
| [], world => ([], world)
| (name, _) :: rest, world =>
    let path := Path.join directory name
    match world.tree.look world.directory path with
    | .error fault =>
        inspect directory rest
          (world.warn
            ("failed to stat '" ++ path ++ "': " ++
              fault.message))
    | .ok object =>
        let (children, world) := inspect directory rest world
        ((name, object) :: children, world)

/- List the next directory. -/
def list
    (walk : Walk)
    (directory : String)
    (world : World) : Walk × World :=
  match world.tree.list world.directory directory with
  | .error fault =>
      (walk,
        world.warn
          ("listing directory '" ++ directory ++
            "' failed: " ++ fault.message))
  | .ok children =>
      let (seen, world) := inspect directory children world
      let children := sortChildren seen
      ({ walk with
        outputs :=
          childEntries walk.root directory children ++
            walk.outputs
        directories :=
          subdirectories directory children ++
            walk.directories }, world)

/- List directories until there is an entry. -/
def advance :
    Nat → Walk → World → Option Entry × Walk × World
| steps, walk, world =>
    match walk.outputs, walk.directories with
    | entry :: outputs, _ =>
        (some entry, { walk with outputs := outputs }, world)
    | [], [] => (none, walk, world)
    | [], directory :: directories =>
        match steps with
        | 0 => (none, walk, world)
        | steps + 1 =>
            let (walk, world) :=
              list { walk with directories := directories }
                directory world
            advance steps walk world

/- How many entries a walk has left at most. -/
def bound (walk : Walk) (world : World) : Nat :=
  walk.outputs.length + walk.directories.length +
    world.tree.objects.length

/- The next entry of a walk. -/
def next
    (walk : Walk)
    (world : World) :
    Option (Except StoreFault Entry) × Walk × World :=
  let (entry, walk, world) :=
    advance (walk.bound world + 1) walk world
  (entry.map .ok, walk, world)

end Walk

instance : Source Walk where
  next := Walk.next
  bound := Walk.bound

------------------------------------------------------------
-- Directory Stores
------------------------------------------------------------

/- The absolute path of the root, without dots. -/
structure DirectoryStore where
  root : String

namespace DirectoryStore

/- The path of a location. -/
def pathOf (location : Location) : String :=
  Path.ofNames (location.map String.toList)

/- The store of a path that is seen from the world. -/
def «open»
    (path : String)
    (world : World) : Except StoreFault DirectoryStore :=
  let root :=
    Path.normalize
      (Path.join (pathOf world.directory) path)
  match world.tree.look world.directory root with
  | .ok _ => .ok ⟨root⟩
  | .error fault => .error (.io root fault)

/- The place of an entry. -/
def resolve
    (store : DirectoryStore)
    (entry : Entry) : Except StoreFault String :=
  match Path.resolveUnder store.root entry.path with
  | some path => .ok path
  | none => .error (.outsideRoot entry.path)

/- The object at a place, if there is one. -/
def look?
    (path : String)
    (world : World) :
    Except StoreFault (Option FileObject) :=
  match world.tree.look world.directory path with
  | .ok object => .ok (some object)
  | .error .missing => .ok none
  | .error fault => .error (.io path fault)

/- Answer a query with a walk. -/
def query
    (store : DirectoryStore)
    (filter : Option Filter)
    (options : QueryOptions)
    (projection : Projection)
    (world : World) :
    Except StoreFault (Results Walk) × World :=
  match world.tree.look world.directory store.root with
  | .error fault => (.error (.io store.root fault), world)
  | .ok object =>
      let (results, world) :=
        Results.start (Walk.start store.root object) filter
          options projection world
      (.ok results, world)

/- Read an entry again. -/
def fresh
    (store : DirectoryStore)
    (entry : Entry)
    (world : World) : Except StoreFault (Option Entry) :=
  match store.resolve entry with
  | .error fault => .error fault
  | .ok path =>
      (look? path world).map fun object =>
        object.map fun o => o.entry entry.path

/- Remove the object at a place. -/
def removeObject
    (object : FileObject)
    (path : String)
    (world : World) : Except FileFault FileTree :=
  if object.isDirectory then
    world.tree.removeDirectory world.directory path
  else world.tree.removeFile world.directory path

/-
  Remove the object of an entry.  The root stays, and an
  object that is gone counts as removed.
-/
def remove
    (store : DirectoryStore)
    (entry : Entry)
    (world : World) : Except StoreFault Unit × World :=
  match store.resolve entry with
  | .error fault => (.error fault, world)
  | .ok path =>
      if path = store.root then
        (.error (.outsideRoot entry.path), world)
      else
        match look? path world with
        | .error fault => (.error fault, world)
        | .ok none => (.ok (), world)
        | .ok (some object) =>
            match removeObject object path world with
            | .ok tree => (.ok (), world.withTree tree)
            | .error .missing => (.ok (), world)
            | .error fault => (.error (.io path fault), world)

end DirectoryStore

instance : Store DirectoryStore (Results Walk) where
  name := fun _ => "posix"
  capabilities := fun _ =>
    { delete := true, migrate := false, xattrs := true }
  predicates := fun _ => []
  query := DirectoryStore.query
  fetch := Results.fetch
  bound := Results.bound
  fresh := DirectoryStore.fresh
  remove := fun store entry world =>
    let (result, world) := store.remove entry world
    (result, store, world)
  migrate := fun store _ _ world =>
    (.error (.unsupported "posix" .migrate), store, world)
  flush := fun store world => (.ok (), store, world)
  location? := fun store entry =>
    Path.resolveUnder store.root entry.path

end TreeKeeper
