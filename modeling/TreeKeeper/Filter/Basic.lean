import TreeKeeper.Pattern.Basic

/-
  Filters on entries: comparisons of one field with one
  operand, joined by conjunction, disjunction and negation.

  Key definitions include:
    * `Field`
    * `Operator`
    * `Operand`
    * `Filter`
    * `Filter.all`
    * `Filter.any`
    * `Filter.both`
    * `SortKey`
-/

------------------------------------------------------------
-- Fields
------------------------------------------------------------

namespace TreeKeeper

/- The part of an entry that a comparison reads. -/
inductive Field where
| name
| path
| symlink
| kind
| mode
| size
| blocks
| uid
| gid
| ino
| nlink
| atime
| mtime
| ctime
| xattr (key : String)
deriving DecidableEq

/- What a field holds. -/
inductive FieldKind where
| text
| unsigned
| timestamp
deriving DecidableEq

namespace Field

/- What a field holds.  The kind of an entry is its letter. -/
def holds : Field → FieldKind
| name => .text
| path => .text
| symlink => .text
| kind => .text
| xattr _ => .text
| atime => .timestamp
| mtime => .timestamp
| ctime => .timestamp
| mode => .unsigned
| size => .unsigned
| blocks => .unsigned
| uid => .unsigned
| gid => .unsigned
| ino => .unsigned
| nlink => .unsigned

/- The fields with a name of their own. -/
def plain : List Field :=
  [name, path, symlink, kind, mode, size, blocks, uid, gid,
    ino, nlink, atime, mtime, ctime]

/- The name of a field. -/
def title : Field → String
| name => "name"
| path => "path"
| symlink => "symlink"
| kind => "type"
| mode => "mode"
| size => "size"
| blocks => "blocks"
| uid => "uid"
| gid => "gid"
| ino => "ino"
| nlink => "nlink"
| atime => "atime"
| mtime => "mtime"
| ctime => "ctime"
| xattr key => "xattr:" ++ key

/-
  The field with a given name.  The key of an extended
  attribute is not empty.
-/
def ofTitle? (text : String) : Option Field :=
  match plain.find? fun field => field.title == text with
  | some field => some field
  | none =>
      match Text.stripBeginning "xattr:".toList
          text.toList with
      | some (c :: key) =>
          some (.xattr (String.ofList (c :: key)))
      | _ => none

end Field

------------------------------------------------------------
-- Operators And Operands
------------------------------------------------------------

/- How a comparison relates a field to its operand. -/
inductive Operator where
| equal
| less
| lessOrEqual
| greater
| greaterOrEqual
| matching
| present
| allSet
| anySet
deriving DecidableEq

namespace Operator

/- Every operator. -/
def all : List Operator :=
  [equal, less, lessOrEqual, greater, greaterOrEqual,
    matching, present, allSet, anySet]

/- The symbol of an operator. -/
def symbol : Operator → String
| equal => "=="
| less => "<"
| lessOrEqual => "<="
| greater => ">"
| greaterOrEqual => ">="
| matching => "=~"
| present => "exists"
| allSet => "all-set"
| anySet => "any-set"

/-
  The operator with a given symbol.  Matching without regard
  to case has a symbol of its own.
-/
def ofSymbol? (text : String) : Option Operator :=
  if text = "=~i" then some matching
  else all.find? fun op => op.symbol == text

end Operator

/- What a field is compared with. -/
inductive Operand where
| unsigned (value : UInt64)
| integer (value : Int64)
| string (value : String)
| pattern (value : Pattern)
| bool (value : Bool)
deriving DecidableEq

/- The text of an operand. -/
def Operand.text : Operand → String
| .unsigned n => toString n.toNat
| .integer n => toString n.toInt
| .string s => s
| .pattern p => p.source
| .bool true => "true"
| .bool false => "false"

------------------------------------------------------------
-- Filters
------------------------------------------------------------

/- Conditions on entries. -/
inductive Filter where
| compare (field : Field) (op : Operator) (value : Operand)
| and (children : List Filter)
| or (children : List Filter)
| not (child : Filter)

namespace Filter

mutual

/- Whether two filters are the same tree. -/
def same : Filter → Filter → Bool
| compare f o v, compare g p w =>
    f == g && o == p && v == w
| and fs, and gs => sameList fs gs
| or fs, or gs => sameList fs gs
| not f, not g => same f g
| _, _ => false

/- Whether two lists hold the same trees in order. -/
def sameList : List Filter → List Filter → Bool
| [], [] => true
| f :: fs, g :: gs => same f g && sameList fs gs
| _, _ => false

end

/-
  The conjunction of filters, with no node for fewer than
  two of them.
-/
def all : List Filter → Option Filter
| [] => none
| [f] => some f
| fs => some (and fs)

/-
  The disjunction of filters, with no node for fewer than
  two of them.
-/
def any : List Filter → Option Filter
| [] => none
| [f] => some f
| fs => some (or fs)

/- The conjunction of two filters that may be missing. -/
def both :
    Option Filter → Option Filter → Option Filter
| some f, some g => some (and [f, g])
| some f, none => some f
| none, g => g

end Filter

/- An order of entries by one field. -/
structure SortKey where
  field : Field
  ascending : Bool
deriving DecidableEq

end TreeKeeper
