import TreeKeeper.Entry.Basic
import TreeKeeper.Text.Numeral
import TreeKeeper.Json.Printer
import TreeKeeper.Json.Reader

/-
  Entries as JSON texts.  Path and name are required, and
  all other fields have defaults.  Fields with other names
  are skipped.

  Key definitions include:
    * `Entry.toJson`
    * `Entry.ofJson?`
    * `Entry.toText`
    * `Entry.ofText?`
-/

------------------------------------------------------------
-- Numbers And Kinds
------------------------------------------------------------

namespace TreeKeeper

namespace Json

/-
  The number that digits stand for, as an integer.  A minus
  sign in front of zero makes no integer.
-/
def integerOfDigits? : List Char → Option Int
| '-' :: digits =>
    match Numeral.ofDigits? 10 digits with
    | some 0 => none
    | some n => some (-(n : Int))
    | none => none
| digits => (Numeral.ofDigits? 10 digits).map Int.ofNat

/- The integer that a number stands for. -/
def integer? : Json → Option Int
| number digits => integerOfDigits? digits
| _ => none

/- The number from zero up to a bound. -/
def natural?
    (bound : Nat)
    (json : Json) : Option Nat :=
  match json.integer? with
  | some (.ofNat n) => if n < bound then some n else none
  | _ => none

/- The 32-bit number of a value. -/
def word32? (json : Json) : Option UInt32 :=
  (json.natural? UInt32.size).map UInt32.ofNat

/- The 64-bit number of a value. -/
def word64? (json : Json) : Option UInt64 :=
  (json.natural? UInt64.size).map UInt64.ofNat

/- The signed 64-bit number of a value. -/
def integer64? (json : Json) : Option Int64 :=
  match json.integer? with
  | some n =>
      if
        Int64.minValue.toInt ≤ n ∧
        n ≤ Int64.maxValue.toInt
      then some (Int64.ofInt n)
      else none
  | none => none

/- A number as a value. -/
def ofInt (n : Int) : Json :=
  .number (toString n).toList

/-
  The kind of a value: its word, or an object with the word
  as its only field and no content.
-/
def kind? : Json → Option FileKind
| string (some word) => FileKind.ofWord? word
| object [(some word, null)] => FileKind.ofWord? word
| _ => none

/- A text that may be null. -/
def optionalText? : Json → Option (Option String)
| null => some none
| string (some text) => some (some text)
| _ => none

/- The pairs of an object that has texts as its values. -/
def textPairs? :
    List (Option String × Json) →
      Option (List (String × String))
| [] => some []
| (some key, string (some value)) :: rest =>
    (textPairs? rest).map ((key, value) :: ·)
| _ => none

/- The map of an object, where later fields win. -/
def dictionary? : Json → Option (Dictionary String)
| object fields =>
    (textPairs? fields).map Dictionary.ofList
| _ => none

/- A map as an object. -/
def ofDictionary (map : Dictionary String) : Json :=
  .object
    (map.pairs.map fun (key, value) =>
      (some key, .string (some value)))

/- Read a field of a record, or take its default. -/
def fieldOr
    {α : Type}
    (fields : List (String × Json))
    (name : String)
    (read : Json → Option α)
    (fallback : α) : Option α :=
  match fields.lookup name with
  | some json => read json
  | none => some fallback

end Json

------------------------------------------------------------
-- Attributes
------------------------------------------------------------

namespace Stat

/- The names of the attributes, in order. -/
def fieldNames : List String :=
  ["kind", "mode", "size", "blocks", "uid", "gid", "ino",
    "nlink", "atime", "mtime", "ctime"]

/- Attributes as a value. -/
def toJson (stat : Stat) : Json :=
  let natural := fun (n : Nat) => Json.ofInt n
  .object [
    (some "kind", .string (some stat.kind.word)),
    (some "mode", natural stat.mode.toNat),
    (some "size", natural stat.size.toNat),
    (some "blocks", natural stat.blocks.toNat),
    (some "uid", natural stat.uid.toNat),
    (some "gid", natural stat.gid.toNat),
    (some "ino", natural stat.ino.toNat),
    (some "nlink", natural stat.nlink.toNat),
    (some "atime", .ofInt stat.atime.toInt),
    (some "mtime", .ofInt stat.mtime.toInt),
    (some "ctime", .ofInt stat.ctime.toInt)]

/- The attributes that a value holds. -/
def ofJson? (json : Json) : Option Stat := do
  let fields ← json.record? fieldNames
  return {
    kind := ← Json.fieldOr fields "kind" Json.kind? .file
    mode := ← Json.fieldOr fields "mode" Json.word32? 0
    size := ← Json.fieldOr fields "size" Json.word64? 0
    blocks := ← Json.fieldOr fields "blocks" Json.word64? 0
    uid := ← Json.fieldOr fields "uid" Json.word32? 0
    gid := ← Json.fieldOr fields "gid" Json.word32? 0
    ino := ← Json.fieldOr fields "ino" Json.word64? 0
    nlink := ← Json.fieldOr fields "nlink" Json.word64? 0
    atime := ← Json.fieldOr fields "atime" Json.integer64? 0
    mtime := ← Json.fieldOr fields "mtime" Json.integer64? 0
    ctime :=
      ← Json.fieldOr fields "ctime" Json.integer64? 0 }

end Stat

------------------------------------------------------------
-- Entries
------------------------------------------------------------

namespace Entry

/- The names of the fields, in order. -/
def fieldNames : List String :=
  ["path", "name", "symlink", "stat", "xattrs"]

/- An entry as a value. -/
def toJson (entry : Entry) : Json :=
  .object [
    (some "path", .string (some entry.path)),
    (some "name", .string (some entry.name)),
    (some "symlink",
      match entry.symlink with
      | some target => .string (some target)
      | none => .null),
    (some "stat", entry.stat.toJson),
    (some "xattrs", .ofDictionary entry.xattrs)]

/- The entry that a value holds. -/
def ofJson? (json : Json) : Option Entry := do
  let fields ← json.record? fieldNames
  return {
    path := ← (← fields.lookup "path").text?
    name := ← (← fields.lookup "name").text?
    symlink :=
      ← Json.fieldOr fields "symlink" Json.optionalText? none
    stat := ← Json.fieldOr fields "stat" Stat.ofJson? {}
    xattrs :=
      ← Json.fieldOr fields "xattrs" Json.dictionary?
        Dictionary.empty }

/- An entry as text on one line. -/
def toText (entry : Entry) : String :=
  entry.toJson.render

/- The entry that a text holds. -/
def ofText? (text : String) : Option Entry :=
  (Json.read? text).bind ofJson?

end Entry

end TreeKeeper
