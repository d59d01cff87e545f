/-
  Texts as lists of characters: splitting, joining, cutting
  at the ends, replacing, and the numerals that occur in
  arguments and reports.

  Key definitions include:
    * `Text.splitOn`
    * `Text.joinWith`
    * `Text.dropTrailing`
    * `Text.stripEnding`
    * `Text.replace`
    * `Text.padLeft`
    * `Text.padRight`
-/

------------------------------------------------------------
-- Splitting And Joining
------------------------------------------------------------

namespace TreeKeeper

namespace Text

/-
  The pieces of a text between the occurrences of a
  separator.  There is one more piece than separators.
-/
def splitOn
    (separator : Char) :
    List Char → List (List Char)
| [] => [[]]
| c :: rest =>
    if c = separator then
      [] :: splitOn separator rest
    else
      match splitOn separator rest with
      | [] => [[c]]
      | piece :: pieces => (c :: piece) :: pieces

/- Put a separator between consecutive pieces. -/
def joinWith
    (separator : List Char) :
    List (List Char) → List Char
| [] => []
| [piece] => piece
| piece :: next :: pieces =>
    piece ++ separator ++
      joinWith separator (next :: pieces)

/- Put a separator between consecutive texts. -/
def join
    (separator : String)
    (pieces : List String) : String :=
  String.ofList
    (joinWith separator.toList
      (pieces.map String.toList))

------------------------------------------------------------
-- Cutting At The Ends
------------------------------------------------------------

/- Drop the characters at the end that satisfy a test. -/
def dropTrailing
    (test : Char → Bool)
    (text : List Char) : List Char :=
  (text.reverse.dropWhile test).reverse

/- The text in front of a given beginning, if it has it. -/
def stripBeginning :
    List Char → List Char → Option (List Char)
| [], text => some text
| _ :: _, [] => none
| b :: beginning, c :: text =>
    if b = c then stripBeginning beginning text
    else none

/- The text before a given ending, if it has that ending. -/
def stripEnding
    (ending text : List Char) : Option (List Char) :=
  (stripBeginning ending.reverse text.reverse).map
    List.reverse

/-
  Replace every occurrence of a nonempty text, searching
  from the left and never inside an earlier replacement.
  The counter bounds the occurrences by the length.
-/
def replaceFrom
    (old new : List Char) :
    Nat → List Char → List Char
| 0, text => text
| _ + 1, [] => []
| fuel + 1, c :: text =>
    match stripBeginning old (c :: text) with
    | some rest => new ++ replaceFrom old new fuel rest
    | none => c :: replaceFrom old new fuel text

/- Replace every occurrence of a nonempty text. -/
def replace
    (text old new : String) : String :=
  String.ofList
    (replaceFrom old.toList new.toList
      (text.toList.length + 1) text.toList)

------------------------------------------------------------
-- Padding
------------------------------------------------------------

/- Blanks in front, up to a width in characters. -/
def padLeft
    (width : Nat)
    (text : String) : String :=
  String.ofList
    (List.replicate (width - text.length) ' ') ++ text

/- Blanks behind, up to a width in characters. -/
def padRight
    (width : Nat)
    (text : String) : String :=
  text ++ String.ofList
    (List.replicate (width - text.length) ' ')

/- Zeros in front, up to a width in characters. -/
def padZeros
    (width : Nat)
    (text : String) : String :=
  String.ofList
    (List.replicate (width - text.length) '0') ++ text

end Text

end TreeKeeper
