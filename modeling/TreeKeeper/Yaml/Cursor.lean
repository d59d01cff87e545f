import TreeKeeper.Text.Basic

/-
  Places in a YAML text, with the line and the column they
  have, and the classes of characters that the syntax tells
  apart.

  Key definitions include:
    * `Yaml.isPrintable`
    * `Yaml.isBreak`
    * `Yaml.Cursor`
    * `Yaml.Cursor.next`
    * `Yaml.Cursor.nextLine`
-/

------------------------------------------------------------
-- Characters
------------------------------------------------------------

namespace TreeKeeper

namespace Yaml

/- Whether a character may occur in a text at all. -/
def isPrintable (c : Char) : Bool :=
  let n := c.toNat
  n == 0x09 || n == 0x0A || n == 0x0D ||
    (0x20 ≤ n && n ≤ 0x7E) || n == 0x85 ||
    (0xA0 ≤ n && n ≤ 0xFFFD) || 0x10000 ≤ n

/- Whether a character is a blank within a line. -/
def isBlank (c : Char) : Bool :=
  c == ' ' || c == '\t'

/- Whether a character ends a line. -/
def isBreak (c : Char) : Bool :=
  c == '\n' || c == '\r' || c == '\u0085' ||
    c == '\u2028' || c == '\u2029'

/- Whether a character is a letter, digit, bar or hyphen. -/
def isWordChar (c : Char) : Bool :=
  c.isAlphanum || c == '_' || c == '-'

/- Whether a character belongs to flow collections. -/
def isFlowIndicator (c : Char) : Bool :=
  c == ',' || c == '[' || c == ']' || c == '\x7b' ||
    c == '\x7d'

------------------------------------------------------------
-- Cursors
------------------------------------------------------------

/- A place in a text: what follows it, and where it is. -/
structure Cursor where
  rest : List Char
  index : Nat := 0
  line : Nat := 0
  column : Nat := 0

namespace Cursor

/- The character at a place. -/
def char? (cursor : Cursor) : Option Char :=
  cursor.rest.head?

/- The character some characters behind a place. -/
def charAt? (cursor : Cursor) (offset : Nat) : Option Char :=
  cursor.rest[offset]?

/- Whether a given character is at a place. -/
def isAt (cursor : Cursor) (c : Char) : Bool :=
  cursor.char? == some c

/- Whether nothing is left. -/
def atEnd (cursor : Cursor) : Bool :=
  cursor.rest.isEmpty

/- Whether a blank is at a place. -/
def atBlank (cursor : Cursor) : Bool :=
  cursor.char?.any isBlank

/- Whether a line ends at a place with a break. -/
def atBreak (cursor : Cursor) : Bool :=
  cursor.char?.any isBreak

/- Whether a word ends some characters behind a place. -/
def endsWordAt (cursor : Cursor) (offset : Nat) : Bool :=
  (cursor.charAt? offset).all fun c =>
    isBlank c || isBreak c

/- Step over one character within a line. -/
def next (cursor : Cursor) : Cursor :=
  { cursor with
    rest := cursor.rest.tail
    index := cursor.index + 1
    column := cursor.column + 1 }

/- Step over several characters within a line. -/
def skip : Nat → Cursor → Cursor
| 0, cursor => cursor
| n + 1, cursor => skip n cursor.next

/-
  Step over a line break, which may be a carriage return
  with a line feed.
-/
def nextLine (cursor : Cursor) : Cursor :=
  let length :=
    match cursor.rest with
    | '\r' :: '\n' :: _ => 2
    | _ => 1
  { rest := cursor.rest.drop length
    index := cursor.index + length
    line := cursor.line + 1
    column := 0 }

/-
  What a line break at a place counts as in a text.  All but
  two of the breaks count as a line feed.
-/
def breakChar? (cursor : Cursor) : Option Char :=
  match cursor.char? with
  | some c =>
      if c == '\u2028' || c == '\u2029' then some c
      else if isBreak c then some '\n'
      else none
  | none => none

/- Step over characters within a line that pass a test. -/
def skipWhile
    (test : Char → Bool)
    (cursor : Cursor) : Cursor :=
  cursor.skip (cursor.rest.takeWhile test).length

/- Step to the end of the line. -/
def skipToLineEnd (cursor : Cursor) : Cursor :=
  cursor.skipWhile fun c => !isBreak c

/- Whether a line begins with three characters on their own. -/
def atMarker (c : Char) (cursor : Cursor) : Bool :=
  cursor.column == 0 &&
    cursor.rest.take 3 == [c, c, c] && cursor.endsWordAt 3

/- Whether a line begins with a document marker. -/
def atDocumentMarker (cursor : Cursor) : Bool :=
  cursor.atMarker '-' || cursor.atMarker '.'

end Cursor

end Yaml

end TreeKeeper
