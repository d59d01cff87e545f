import TreeKeeper.FileTree.Basic
import TreeKeeper.Text.Basic

/-
  File trees as lists of paths, and trees that are put
  together from such lists.

  Key definitions include:
    * `FileTree.plant`
    * `FileTree.below`
-/

------------------------------------------------------------
-- Planting
------------------------------------------------------------

namespace TreeKeeper

namespace FileTree

/- Put a directory where there is none. -/
def plantDirectory
    (tree : FileTree)
    (location : Location) : FileTree :=
  if tree.hasDirectory location then tree
  else
    (tree.put? location (.directory newDirectory)).getD tree

/-
  Put an object and the directories on the way to it.  The
  tree stays as it is where that is not possible.
-/
def plant
    (tree : FileTree)
    (location : Location)
    (object : FileObject) : FileTree :=
  let tree :=
    (List.range location.length).foldl
      (fun tree n => plantDirectory tree (location.take n))
      tree
  (tree.put? location object).getD tree

------------------------------------------------------------
-- Listing
------------------------------------------------------------

/- The path of a location that is seen from another one. -/
def pathBelow?
    (root location : Location) : Option String :=
  if root.isPrefixOf location && root ≠ location then
    some (Text.join "/" (location.drop root.length))
  else none

/- The objects below a location, in the order of their paths. -/
def below
    (tree : FileTree)
    (root : Location) : List (String × FileObject) :=
  (tree.objects.filterMap fun p =>
    (pathBelow? root p.1).map fun path => (path, p.2)).mergeSort
      fun a b => a.1 ≤ b.1

end FileTree

end TreeKeeper
