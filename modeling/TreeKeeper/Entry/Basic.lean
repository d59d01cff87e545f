import TreeKeeper.Text.Basic
import TreeKeeper.Text.Dictionary
import TreeKeeper.Entry.Kind

/-
  Entries: one record for each file system object, with its
  path below the root of a store, its attributes and its
  extended attributes.

  Key definitions include:
    * `Stat`
    * `Stat.kilobytes?`
    * `Entry`
    * `Entry.nameOf`
    * `Entry.directoryOf`
    * `Entry.ofPath`
    * `Entry.depth`
-/

------------------------------------------------------------
-- Attributes
------------------------------------------------------------

namespace TreeKeeper

/-
  The attributes of an object.  Times are seconds since the
  epoch, and blocks have 512 bytes.
-/
structure Stat where
  kind : FileKind := .file
  mode : UInt32 := 0
  size : UInt64 := 0
  blocks : UInt64 := 0
  uid : UInt32 := 0
  gid : UInt32 := 0
  ino : UInt64 := 0
  nlink : UInt64 := 0
  atime : Int64 := 0
  mtime : Int64 := 0
  ctime : Int64 := 0
deriving DecidableEq

instance : Inhabited Stat := ⟨{}⟩

/-
  The blocks of 1024 bytes that hold the blocks of 512
  bytes.  One is added before they are halved, in 64-bit
  words, and there is no result if the sum is no word.
-/
def Stat.kilobytes? (stat : Stat) : Option UInt64 :=
  if stat.blocks.toNat + 1 < UInt64.size then
    some ((stat.blocks + 1) / 2)
  else none

------------------------------------------------------------
-- Entries
------------------------------------------------------------

/- One object of a store. -/
structure Entry where
  path : String
  name : String
  symlink : Option String := none
  stat : Stat := {}
  xattrs : Dictionary String := Dictionary.empty
deriving DecidableEq

namespace Entry

/- The characters behind the last slash. -/
def lastComponent (text : List Char) : List Char :=
  (text.reverse.takeWhile (· ≠ '/')).reverse

/-
  The name that a path ends in.  Slashes at the end do not
  count, and a path of slashes only has the name `/`.
-/
def nameOf (path : String) : String :=
  match Text.dropTrailing (· == '/') path.toList with
  | [] => "/"
  | text => String.ofList (lastComponent text)

/-
  The path in front of the last component.  A path with at
  most one component lies in `/`.
-/
def directoryOf (path : String) : String :=
  let text := Text.dropTrailing (· == '/') path.toList
  match (text.reverse.dropWhile (· ≠ '/')).reverse with
  | [] => "/"
  | [_] => "/"
  | parent => String.ofList parent.dropLast

/- The path without one leading slash. -/
def relativeOf (path : String) : String :=
  match path.toList with
  | '/' :: rest => String.ofList rest
  | _ => path

/- An entry that is named after its path. -/
def ofPath
    (path : String)
    (stat : Stat := {}) : Entry :=
  { path := path, name := nameOf path, stat := stat }

/- The number of slashes in a path, and zero for the root. -/
def depth (entry : Entry) : Nat :=
  if entry.path = "/" then 0
  else entry.path.toList.count '/'

end Entry

end TreeKeeper
