import TreeKeeper.FileTree.Basic
import TreeKeeper.FileTree.Fault
import TreeKeeper.Path.Basic

/-
  Where a path leads in a file tree.  Symbolic links on the
  way are followed, and a link at the end of the path only if
  asked for.  A slash at the end asks for a directory.

  Key definitions include:
    * `FileTree.Stop`
    * `FileTree.advance`
    * `FileTree.walk`
    * `FileTree.Place`
    * `FileTree.locate`
-/

------------------------------------------------------------
-- Walking
------------------------------------------------------------

namespace TreeKeeper

namespace FileTree

/-
  Where a walk stops: at an object, in front of a name that
  is not there, or at a link with the pieces behind it.
-/
inductive Stop where
| here (location : Location)
| absent (directory : Location) (name : String)
| link
    (directory : Location)
    (target : String)
    (rest : List String)

/- The greatest number of bytes of a name. -/
def nameLimit : Nat :=
  255

/- The greatest number of bytes of a path. -/
def pathLimit : Nat :=
  4095

/- The greatest number of links on the way. -/
def linkLimit : Nat :=
  40

/- The pieces of a path between its slashes. -/
def piecesOf (path : String) : List String :=
  (Text.splitOn '/' path.toList).map String.ofList

/-
  Follow the pieces of a path from a directory, up to the
  first link that has to be followed.
-/
def advance
    (tree : FileTree)
    (followsLast : Bool) :
    Location → List String → Except FileFault Stop
| directory, [] => .ok (.here directory)
| directory, piece :: rest =>
    if piece = "" ∨ piece = "." then
      advance tree followsLast directory rest
    else if piece = ".." then
      advance tree followsLast directory.dropLast rest
    else if nameLimit < piece.utf8ByteSize then
      .error .nameTooLong
    else
      match tree.find? (directory ++ [piece]) with
      | none =>
          if rest.isEmpty then .ok (.absent directory piece)
          else .error .missing
      | some (.directory _) =>
          advance tree followsLast (directory ++ [piece]) rest
      | some (.file ..) =>
          if rest.isEmpty then
            .ok (.here (directory ++ [piece]))
          else .error .notDirectory
      | some (.symlink _ target) =>
          if rest.isEmpty && !followsLast then
            .ok (.here (directory ++ [piece]))
          else .ok (.link directory target rest)
      | some (.special ..) =>
          if rest.isEmpty then
            .ok (.here (directory ++ [piece]))
          else .error .notDirectory

/- Where a path leads: to an object, or next to others. -/
inductive Place where
| here (location : Location)
| absent (directory : Location) (name : String)
deriving DecidableEq

/- The directory that a path starts from. -/
def startOf
    (directory : Location)
    (path : String) : Location :=
  if Path.isAbsolute path then [] else directory

/- Follow pieces and at most a number of links. -/
def walk
    (tree : FileTree)
    (followsLast : Bool) :
    Nat → Location → List String → Except FileFault Place
| links, directory, pieces =>
    match tree.advance followsLast directory pieces with
    | .error fault => .error fault
    | .ok (.here location) => .ok (.here location)
    | .ok (.absent directory name) =>
        .ok (.absent directory name)
    | .ok (.link directory target rest) =>
        match links with
        | 0 => .error .tooManyLinks
        | links + 1 =>
            walk tree followsLast links
              (startOf directory target)
              (piecesOf target ++ rest)

/- Where a path leads that is seen from a directory. -/
def locate
    (tree : FileTree)
    (followsLast : Bool)
    (directory : Location)
    (path : String) : Except FileFault Place :=
  if path = "" then .error .missing
  else if path.toList.contains '\x00' then
    .error .zeroInName
  else if pathLimit < path.utf8ByteSize then
    .error .nameTooLong
  else
    walk tree followsLast linkLimit
      (startOf directory path) (piecesOf path)

end FileTree

end TreeKeeper
