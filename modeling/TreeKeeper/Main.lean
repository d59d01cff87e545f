import TreeKeeper.CommandLine.Run
import TreeKeeper.FileTree.Listing
import TreeKeeper.Program.Standard

/-
  The program.  It reads the tree below the working directory
  into memory, runs the command of its arguments on it, and
  writes back what the command has changed.  Permissions and
  owners are not read, the targets of links are resolved, and
  all special objects count as sockets.

  Key definitions include:
    * `main`
-/

------------------------------------------------------------
-- Reading The Tree
------------------------------------------------------------

namespace TreeKeeper

namespace Program

/- Run an action, or take a default if it fails. -/
def attempt {α : Type} (fallback : α) (act : IO α) : IO α :=
  try act catch _ => pure fallback

/- What the system tells of an object. -/
def attributesOf
    (data : IO.FS.Metadata)
    (permissions : UInt32) : Attributes where
  permissions := permissions
  nlink := data.numLinks
  atime := Int64.ofInt data.accessed.sec
  mtime := Int64.ofInt data.modified.sec

/- Read the objects of a directory and below them. -/
partial def readEntries
    (location : Location)
    (tree : FileTree)
    (entries : Array IO.FS.DirEntry) : IO FileTree := do
  let mut tree := tree
  for entry in entries do
    let place := location ++ [entry.fileName]
    let data ← entry.path.symlinkMetadata
    match data.type with
    | .dir =>
        tree := tree.plant place (.directory {
          attributesOf data 0o755 with
            size := data.byteSize })
        let children ← attempt #[] entry.path.readDir
        tree ← readEntries place tree children
    | .symlink =>
        let target ←
          attempt "" do
            return (← IO.FS.realPath entry.path).toString
        tree := tree.plant place
          (.symlink (attributesOf data 0o777) target)
    | .file =>
        let text ← attempt "" (IO.FS.readFile entry.path)
        tree := tree.plant place
          (.file (attributesOf data 0o644) text)
    | .other =>
        tree := tree.plant place
          (.special (attributesOf data 0o644) .socket)
  return tree

------------------------------------------------------------
-- Writing The Tree
------------------------------------------------------------

/- The path of a location in the file system. -/
def systemPath (location : Location) : String :=
  "/" ++ Text.join "/" location

/- Remove an object that is gone from the tree. -/
def removeObject (p : Location × FileObject) : IO Unit :=
  match p.2 with
  | .directory _ => IO.FS.removeDir (systemPath p.1)
  | _ => IO.FS.removeFile (systemPath p.1)

/- Write a file that has changed. -/
def writeObject
    (old : FileTree)
    (p : Location × FileObject) : IO Unit :=
  match p.2 with
  | .file _ text =>
      if old.find? p.1 = some p.2 then pure ()
      else IO.FS.writeFile (systemPath p.1) text
  | _ => pure ()

/- Write back what differs between two trees. -/
def writeChanges (old new : FileTree) : IO Unit := do
  let gone :=
    old.objects.filter fun p => (new.find? p.1).isNone
  let deepestFirst :=
    gone.mergeSort fun a b => b.1.length ≤ a.1.length
  deepestFirst.forM removeObject
  new.objects.forM (writeObject old)

------------------------------------------------------------
-- Running
------------------------------------------------------------

/- The seconds since the epoch, as new files have them. -/
def readClock : IO Int64 := do
  let (_, path) ← IO.FS.createTempFile
  let data ← path.metadata
  IO.FS.removeFile path
  return Int64.ofInt data.modified.sec

/- Run the program and give its status. -/
def runInSystem (args : List String) : IO Nat := do
  let directory ← IO.currentDir
  let location := directory.components.filter (· ≠ "")
  let tree ←
    readEntries location
      (FileTree.empty.plant location
        (.directory FileTree.newDirectory))
      (← directory.readDir)
  let world : World := { tree := tree, directory := location }
  let outcome :=
    Invocation.runArgs args standard (← readClock) {} world
  writeChanges tree outcome.world.tree
  (← IO.getStdout).write outcome.out.bytes
  let stderr ← IO.getStderr
  stderr.putStr outcome.shown
  outcome.reports.forM stderr.putStrLn
  return outcome.status

end Program

end TreeKeeper

/- Run the program with the arguments of the command line. -/
def main (args : List String) : IO UInt32 := do
  return UInt32.ofNat (← TreeKeeper.Program.runInSystem args)
