import TreeKeeper.FileTree.Resolve

/-
  Operations on file trees by path: looking at an object,
  reading and writing files, listing directories and removing
  objects.  Paths are seen from a directory.

  Key definitions include:
    * `FileTree.look`
    * `FileTree.readText`
    * `FileTree.createFile`
    * `FileTree.appendText`
    * `FileTree.list`
    * `FileTree.removeFile`
    * `FileTree.removeDirectory`
-/

------------------------------------------------------------
-- Reading
------------------------------------------------------------

namespace TreeKeeper

namespace FileTree

/- The object where a path leads. -/
def objectAt
    (tree : FileTree)
    (followsLast : Bool)
    (directory : Location)
    (path : String) :
    Except FileFault (Location × FileObject) :=
  match tree.locate followsLast directory path with
  | .error fault => .error fault
  | .ok (.absent _ _) => .error .missing
  | .ok (.here location) =>
      match tree.object? location with
      | some object => .ok (location, object)
      | none => .error .missing

/- The object at a path.  A link at its end is an object. -/
def look
    (tree : FileTree)
    (directory : Location)
    (path : String) : Except FileFault FileObject :=
  (tree.objectAt false directory path).map Prod.snd

/-
  The text of the file at a path.  There is nobody at the
  other end of a special object.
-/
def readText
    (tree : FileTree)
    (directory : Location)
    (path : String) : Except FileFault String :=
  match tree.objectAt true directory path with
  | .error fault => .error fault
  | .ok (_, .file _ text) => .ok text
  | .ok (_, .special _ _) => .error .noDevice
  | .ok (_, _) => .error .isDirectory

/- What the directory at a path holds. -/
def list
    (tree : FileTree)
    (directory : Location)
    (path : String) :
    Except FileFault (List (String × FileObject)) :=
  match tree.objectAt true directory path with
  | .error fault => .error fault
  | .ok (location, .directory _) =>
      .ok (tree.children location)
  | .ok (_, _) => .error .notDirectory

------------------------------------------------------------
-- Writing
------------------------------------------------------------

/- Put an object where there was none or one of its sort. -/
def place
    (tree : FileTree)
    (location : Location)
    (object : FileObject) : Except FileFault FileTree :=
  match tree.put? location object with
  | some tree => .ok tree
  | none => .error .missing

/- Make the file at a path empty, or create it. -/
def createFileAt
    (tree : FileTree)
    (directory : Location)
    (path : String) :
    Except FileFault (Location × FileTree) :=
  match tree.locate true directory path with
  | .error fault => .error fault
  | .ok (.absent parent name) =>
      let location := parent ++ [name]
      (tree.place location (.file newFile "")).map
        fun tree => (location, tree)
  | .ok (.here location) =>
      match tree.object? location with
      | some (.file attributes _) =>
          (tree.place location (.file attributes "")).map
            fun tree => (location, tree)
      | some (.special _ _) => .error .noDevice
      | _ => .error .isDirectory

/-
  Make the file at a path empty, and create it if it is not
  there.  The result tells where the file is.  A slash at the
  end of the path asks for a directory.
-/
def createFile
    (tree : FileTree)
    (directory : Location)
    (path : String) :
    Except FileFault (Location × FileTree) :=
  if path.toList.getLast? = some '/' then
    match Text.dropTrailing (· == '/') path.toList with
    | [] => .error .isDirectory
    | parent =>
        match tree.locate true directory
            (String.ofList parent) with
        | .error fault => .error fault
        | .ok _ => .error .isDirectory
  else tree.createFileAt directory path

/- Add text to the end of the file at a location. -/
def appendText
    (tree : FileTree)
    (location : Location)
    (text : String) : FileTree :=
  match tree.find? location with
  | some (.file attributes old) =>
      (tree.put? location
        (.file attributes (old ++ text))).getD tree
  | _ => tree

------------------------------------------------------------
-- Removing
------------------------------------------------------------

/- Remove the object at a path that is no directory. -/
def removeFile
    (tree : FileTree)
    (directory : Location)
    (path : String) : Except FileFault FileTree :=
  match tree.objectAt false directory path with
  | .error fault => .error fault
  | .ok (_, .directory _) => .error .isDirectory
  | .ok (location, _) =>
      match tree.erase? location with
      | some tree => .ok tree
      | none => .error .notEmpty

/- Remove the directory at a path that holds nothing. -/
def removeDirectory
    (tree : FileTree)
    (directory : Location)
    (path : String) : Except FileFault FileTree :=
  match tree.objectAt false directory path with
  | .error fault => .error fault
  | .ok (location, .directory _) =>
      if location.isEmpty then .error .busy
      else
        match tree.erase? location with
        | some tree => .ok tree
        | none => .error .notEmpty
  | .ok (_, _) => .error .notDirectory

end FileTree

end TreeKeeper
