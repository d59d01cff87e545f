import TreeKeeper.Text.Blank

/-
  Command lines as lists of words.  Blanks separate words,
  single quotes keep everything, double quotes keep
  everything but escaped quotes and backslashes, and outside
  of quotes a backslash keeps any character.

  Key definitions include:
    * `CommandWords.Quoting`
    * `CommandWords.Fault`
    * `CommandWords.split`
-/

------------------------------------------------------------
-- Faults
------------------------------------------------------------

namespace TreeKeeper

namespace CommandWords

/- Why a text is no command line. -/
inductive Fault where
| openQuote
| openBackslash
deriving DecidableEq

/- The report of a fault. -/
def Fault.message : Fault → String
| openQuote => "unterminated quote"
| openBackslash => "trailing backslash"

------------------------------------------------------------
-- Splitting
------------------------------------------------------------

/- The quotes around a place. -/
inductive Quoting where
| none
| single
| double
deriving DecidableEq

/- A word that may have been begun, which is kept reversed. -/
abbrev Begun := Option (List Char)

/- Begin a word unless it has been begun. -/
def Begun.start (word : Begun) : Begun :=
  some (word.getD [])

/- Add a character to a word. -/
def Begun.add (word : Begun) (c : Char) : Begun :=
  some (c :: word.getD [])

/- The word, if it has been begun. -/
def Begun.finish (word : Begun) : List String :=
  (word.map fun cs => String.ofList cs.reverse).toList

/- Put the word that ends in front of those behind it. -/
def Begun.before
    (word : Begun)
    (result : Except Fault (List String)) :
    Except Fault (List String) :=
  result.map (word.finish ++ ·)

/- Split a text behind a word that may have been begun. -/
def splitFrom :
    Quoting → Begun → List Char →
      Except Fault (List String)
| .none, word, [] => .ok word.finish
| .none, word, '\\' :: rest =>
    match rest with
    | [] => .error .openBackslash
    | c :: rest => splitFrom .none (word.add c) rest
| .none, word, c :: rest =>
    if Text.isBlank c then
      word.before (splitFrom .none .none rest)
    else if c = '\'' then splitFrom .single word.start rest
    else if c = '"' then splitFrom .double word.start rest
    else splitFrom .none (word.add c) rest
| .single, _, [] => .error .openQuote
| .single, word, c :: rest =>
    if c = '\'' then splitFrom .none word rest
    else splitFrom .single (word.add c) rest
| .double, _, [] => .error .openQuote
| .double, word, '\\' :: rest =>
    match rest with
    | [] => .error .openQuote
    | c :: rest =>
        if c = '"' || c = '\\' then
          splitFrom .double (word.add c) rest
        else
          splitFrom .double ((word.add '\\').add c) rest
| .double, word, c :: rest =>
    if c = '"' then splitFrom .none word rest
    else splitFrom .double (word.add c) rest

/- The words of a command line. -/
def split (text : String) : Except Fault (List String) :=
  splitFrom .none Option.none text.toList

end CommandWords

end TreeKeeper
