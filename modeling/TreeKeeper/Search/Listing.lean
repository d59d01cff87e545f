import TreeKeeper.Calendar.Basic
import TreeKeeper.Entry.Basic

/-
  Entries as lines of a long listing: inode, blocks, mode,
  links, owner, group, size, time of modification, path and
  link target.

  Key definitions include:
    * `Listing.modeText`
    * `Listing.timeText`
    * `Listing.line?`
-/

------------------------------------------------------------
-- Modes
------------------------------------------------------------

namespace TreeKeeper

namespace Listing

/-
  The three letters of a class of users.  A special bit takes
  the place of the execute letter, as a capital if the class
  may not execute.
-/
def classText
    (mode : UInt32)
    (shift special : UInt32)
    (letter capital : Char) : List Char :=
  let bits := mode >>> shift
  let isSpecial := mode &&& special != 0
  [if bits &&& 4 != 0 then 'r' else '-',
    if bits &&& 2 != 0 then 'w' else '-',
    if bits &&& 1 != 0 then
      if isSpecial then letter else 'x'
    else if isSpecial then capital else '-']

/- The kind and the mode of an entry as ten letters. -/
def modeText
    (kind : FileKind)
    (mode : UInt32) : String :=
  String.ofList
    (kind.listingLetter ::
      classText mode 6 0o4000 's' 'S' ++
      classText mode 3 0o2000 's' 'S' ++
      classText mode 0 0o1000 't' 'T')

------------------------------------------------------------
-- Times
------------------------------------------------------------

/-
  A time with its time of day if it lies in the year of the
  reference time, and with its year otherwise.  Times beyond
  the calendar have no text.
-/
def timeText (time now : Int64) : String :=
  match Calendar.momentOf? time.toInt,
      Calendar.momentOf? now.toInt with
  | some t, some n =>
      let date := t.monthName ++ " " ++ t.dayText ++ " "
      if t.year = n.year then date ++ t.clock
      else date ++ " " ++ Calendar.yearText t.year
  | _, _ => "????????????"

------------------------------------------------------------
-- Lines
------------------------------------------------------------

/- The line of an entry that shows a number of blocks. -/
def lineWith
    (entry : Entry)
    (now : Int64)
    (count : UInt64) : String :=
  let stat := entry.stat
  let columns := [
    Text.padLeft 9 (toString stat.ino.toNat),
    Text.padLeft 6 (toString count.toNat),
    modeText stat.kind stat.mode,
    Text.padLeft 3 (toString stat.nlink.toNat),
    Text.padRight 8 (toString stat.uid.toNat),
    Text.padRight 8 (toString stat.gid.toNat),
    Text.padLeft 8 (toString stat.size.toNat),
    timeText stat.mtime now,
    entry.path]
  Text.join " " columns ++
    (entry.symlink.elim "" fun target => " -> " ++ target)

/-
  The line of an entry, without a line break.  There is none
  if the blocks of the entry cannot be rounded up.
-/
def line? (entry : Entry) (now : Int64) : Option String :=
  entry.stat.kilobytes?.map (lineWith entry now)

end Listing

end TreeKeeper
