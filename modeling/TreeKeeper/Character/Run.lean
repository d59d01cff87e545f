import TreeKeeper.Text.Numeral
import TreeKeeper.Text.Blank

/-
  Tables that give every character a label of a fixed width.
  Neighbours mostly share a label or take turns with two of
  them, so a table is a list of runs.  In writing, a run is
  its labels and the number of its characters: `Lu26` is a
  run of twenty-six characters with the label `Lu`, and in
  `LuLl4` each second character has the label `Ll`.

  Key definitions include:
    * `Character.Run`
    * `Character.Run.ofWord`
    * `Character.Run.table`
    * `Character.labelAt?`
-/

------------------------------------------------------------
-- Runs
------------------------------------------------------------

namespace TreeKeeper

namespace Character

/- Characters in a row that take labels in turn. -/
structure Run where
  labels : Array String
  count : Nat

namespace Run

/- Cut a text into labels, within a number of steps. -/
def cut
    (width : Nat) :
    Nat → List Char → List String
| 0, _ => []
| _ + 1, [] => []
| fuel + 1, text =>
    String.ofList (text.take width) ::
      cut width fuel (text.drop width)

/- Read the written form of a run. -/
def ofWord
    (width : Nat)
    (word : String) : Run :=
  let letters := word.toList.takeWhile Char.isAlpha
  let digits := word.toList.drop letters.length
  { labels := (cut width letters.length letters).toArray
    count := (Numeral.ofDigits? 10 digits).getD 0 }

/- Read the lines of a table. -/
def table
    (width : Nat)
    (lines : List String) : List Run :=
  lines.flatMap fun line =>
    (Text.words line).map (ofWord width)

end Run

------------------------------------------------------------
-- Looking Up
------------------------------------------------------------

/- The label of the character with a given number. -/
def labelAt? : List Run → Nat → Option String
| [], _ => none
| run :: runs, n =>
    if n < run.count then
      run.labels[n % run.labels.size]?
    else labelAt? runs (n - run.count)

end Character

end TreeKeeper
