import TreeKeeper.Entry.Basic
import TreeKeeper.Filter.Basic

/-
  Orders of entries.  Texts are ordered by their code points,
  kinds by their letters and numbers by value.  Entries that
  no key tells apart keep the order in which they came.

  Key definitions include:
    * `Entry.compareBy`
    * `Entry.compareByAll`
    * `Entry.sortBy`
-/

------------------------------------------------------------
-- Comparing
------------------------------------------------------------

namespace TreeKeeper

namespace Entry

/-
  The order of two entries by one field.  Fields without an
  order make all entries equal.
-/
def compareBy
    (field : Field)
    (left right : Entry) : Ordering :=
  let l := left.stat
  let r := right.stat
  match field with
  | .name => compare left.name right.name
  | .path => compare left.path right.path
  | .kind => compare l.kind.letter r.kind.letter
  | .size => compare l.size r.size
  | .blocks => compare l.blocks r.blocks
  | .ino => compare l.ino r.ino
  | .atime => compare l.atime r.atime
  | .mtime => compare l.mtime r.mtime
  | .ctime => compare l.ctime r.ctime
  | _ => .eq

/- The order of two entries by one key. -/
def compareByKey
    (key : SortKey)
    (left right : Entry) : Ordering :=
  if key.ascending then compareBy key.field left right
  else (compareBy key.field left right).swap

/- The order by the first key that tells entries apart. -/
def compareByAll :
    List SortKey → Entry → Entry → Ordering
| [], _, _ => .eq
| key :: keys, left, right =>
    (compareByKey key left right).then
      (compareByAll keys left right)

------------------------------------------------------------
-- Sorting
------------------------------------------------------------

/- Whether an entry may stand in front of another one. -/
def mayPrecede
    (keys : List SortKey)
    (left right : Entry) : Bool :=
  compareByAll keys left right != .gt

/- Sort entries and keep the order of equal ones. -/
def sortBy
    (keys : List SortKey)
    (entries : List Entry) : List Entry :=
  entries.mergeSort (mayPrecede keys)

end Entry

end TreeKeeper
