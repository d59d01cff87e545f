/-
  White space, as the Unicode property `White_Space`
  defines it: twenty-five characters, six of them ASCII.

  Key definitions include:
    * `Text.isBlank`
    * `Text.trim`
    * `Text.words`
-/

------------------------------------------------------------
-- The Property
------------------------------------------------------------

namespace TreeKeeper

namespace Text

/- Whether a character has the property `White_Space`. -/
def isBlank (c : Char) : Bool :=
  let n := c.toNat
  (9 ≤ n && n ≤ 13) || n == 32 || n == 0x85 ||
    n == 0xA0 || n == 0x1680 ||
    (0x2000 ≤ n && n ≤ 0x200A) ||
    n == 0x2028 || n == 0x2029 || n == 0x202F ||
    n == 0x205F || n == 0x3000

------------------------------------------------------------
-- Trimming And Words
------------------------------------------------------------

/- Drop the blanks at both ends. -/
def trim (text : List Char) : List Char :=
  ((text.dropWhile isBlank).reverse.dropWhile
    isBlank).reverse

/- The maximal runs of characters that are not blank. -/
def wordsFrom :
    List Char → List Char → List (List Char)
| [], [] => []
| current, [] => [current.reverse]
| current, c :: rest =>
    if isBlank c then
      if current.isEmpty then wordsFrom [] rest
      else current.reverse :: wordsFrom [] rest
    else wordsFrom (c :: current) rest

/- The blank-separated words of a text, in order. -/
def words (text : String) : List String :=
  (wordsFrom [] text.toList).map String.ofList

end Text

end TreeKeeper
