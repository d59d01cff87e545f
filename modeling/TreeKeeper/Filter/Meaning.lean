import TreeKeeper.Entry.Basic
import TreeKeeper.Filter.Basic

/-
  Which entries a filter accepts.  A comparison with an
  attribute that the entry lacks fails, except for the
  question whether the attribute is present.  Numbers are
  ordered by value and texts by their UTF-8 bytes, which is
  the order of their code points.

  Key definitions include:
    * `Reading`
    * `Entry.read?`
    * `Reading.order?`
    * `Operator.admits`
    * `Filter.accepts`
-/

------------------------------------------------------------
-- Reading Fields
------------------------------------------------------------

namespace TreeKeeper

/- What a field of an entry holds. -/
inductive Reading where
| unsigned (value : UInt64)
| integer (value : Int64)
| text (value : String)
| kind (value : FileKind)

/- Read a field of an entry that may lack it. -/
def Entry.read?
    (entry : Entry) : Field → Option Reading
| .name => some (.text entry.name)
| .path => some (.text entry.path)
| .symlink => entry.symlink.map .text
| .kind => some (.kind entry.stat.kind)
| .mode => some (.unsigned entry.stat.mode.toUInt64)
| .size => some (.unsigned entry.stat.size)
| .blocks => some (.unsigned entry.stat.blocks)
| .uid => some (.unsigned entry.stat.uid.toUInt64)
| .gid => some (.unsigned entry.stat.gid.toUInt64)
| .ino => some (.unsigned entry.stat.ino)
| .nlink => some (.unsigned entry.stat.nlink)
| .atime => some (.integer entry.stat.atime)
| .mtime => some (.integer entry.stat.mtime)
| .ctime => some (.integer entry.stat.ctime)
| .xattr key => (entry.xattrs.get? key).map .text

------------------------------------------------------------
-- Comparing
------------------------------------------------------------

/- The number that an operand stands for. -/
def Operand.number? : Operand → Option Int
| .unsigned n => some n.toNat
| .integer n => some n.toInt
| _ => none

/- The number that a reading stands for. -/
def Reading.number? : Reading → Option Int
| .unsigned n => some n.toNat
| .integer n => some n.toInt
| _ => none

/- The text that a reading stands for. -/
def Reading.text? : Reading → Option String
| .text s => some s
| .kind k => some k.letterText
| _ => none

/- The order of a reading and an operand, if they have one. -/
def Reading.order?
    (reading : Reading)
    (operand : Operand) : Option Ordering :=
  match reading.number?, operand.number? with
  | some a, some b => some (Ord.compare a b)
  | _, _ =>
      match reading.text?, operand with
      | some s, .string t => some (Ord.compare s t)
      | _, _ => none

/- Whether an operator admits an order of its sides. -/
def Operator.admits : Operator → Ordering → Bool
| .equal, o => o == .eq
| .less, o => o == .lt
| .lessOrEqual, o => o != .gt
| .greater, o => o == .gt
| .greaterOrEqual, o => o != .lt
| _, _ => false

/- Whether a reading satisfies a comparison. -/
def Reading.satisfies
    (reading : Reading)
    (op : Operator)
    (operand : Operand) : Bool :=
  match op with
  | .matching =>
      match reading.text?, operand with
      | some s, .pattern p => p.matchesText s
      | _, _ => false
  | .allSet =>
      match reading, operand with
      | .unsigned bits, .unsigned mask =>
          bits &&& mask == mask
      | _, _ => false
  | .anySet =>
      match reading, operand with
      | .unsigned bits, .unsigned mask =>
          mask == 0 || bits &&& mask != 0
      | _, _ => false
  | op => (reading.order? operand).any op.admits

/- Whether an entry satisfies a comparison. -/
def Entry.satisfies
    (entry : Entry)
    (field : Field)
    (op : Operator)
    (operand : Operand) : Bool :=
  let reading := entry.read? field
  match op with
  | .present =>
      match operand with
      | .bool expected => reading.isSome == expected
      | _ => false
  | op => reading.any fun r => r.satisfies op operand

------------------------------------------------------------
-- Filters
------------------------------------------------------------

namespace Filter

mutual

/- Whether a filter accepts an entry. -/
def accepts (entry : Entry) : Filter → Bool
| compare field op value => entry.satisfies field op value
| and children => acceptsAll entry children
| or children => acceptsAny entry children
| not child => !accepts entry child

/- Whether all filters of a list accept an entry. -/
def acceptsAll (entry : Entry) : List Filter → Bool
| [] => true
| f :: fs => accepts entry f && acceptsAll entry fs

/- Whether some filter of a list accepts an entry. -/
def acceptsAny (entry : Entry) : List Filter → Bool
| [] => false
| f :: fs => accepts entry f || acceptsAny entry fs

end

/- A filter that is missing accepts every entry. -/
def admits
    (filter : Option Filter)
    (entry : Entry) : Bool :=
  filter.all (accepts entry)

@[simp]
theorem admits_none
    (entry : Entry) :
    admits none entry = true :=
  rfl

@[simp]
theorem admits_both
    (first second : Option Filter)
    (entry : Entry) :
    admits (both first second) entry =
      (admits first entry && admits second entry) := by
  cases first <;> cases second <;>
    simp [both, admits, accepts, acceptsAll]

@[simp]
theorem admits_not
    (filter : Filter)
    (entry : Entry) :
    admits (some (.not filter)) entry =
      !admits (some filter) entry :=
  rfl

end Filter

end TreeKeeper
