import TreeKeeper.Text.Basic
import TreeKeeper.Text.Numeral
import TreeKeeper.Json.Basic

/-
  Reading JSON texts.  A text holds one value, with blanks
  around it.  Strings may hold any character but control
  characters, and escapes for the rest.

  Key definitions include:
    * `Json.Piece`
    * `Json.joinPieces`
    * `Json.readString`
    * `Json.readNumber`
    * `Json.readValue`
    * `Json.read?`
-/

------------------------------------------------------------
-- Blanks
------------------------------------------------------------

namespace TreeKeeper

namespace Json

/- Whether a character may stand between values. -/
def isBlank (c : Char) : Bool :=
  c == ' ' || c == '\n' || c == '\t' || c == '\r'

/- Drop the blanks in front. -/
def skip (text : List Char) : List Char :=
  text.dropWhile isBlank

------------------------------------------------------------
-- Strings
------------------------------------------------------------

/-
  A piece of a string: a character, or an escaped 16-bit
  unit.  A character beyond 16 bits takes two units.
-/
inductive Piece where
| char (c : Char)
| unit (n : Nat)

/- Whether a unit begins a pair. -/
def isLeading (n : Nat) : Bool :=
  0xD800 ≤ n && n < 0xDC00

/- Whether a unit ends a pair. -/
def isTrailing (n : Nat) : Bool :=
  0xDC00 ≤ n && n < 0xE000

/- The character of a pair of units. -/
def ofPair (leading trailing : Nat) : Char :=
  Char.ofNat
    (0x10000 + (leading - 0xD800) * 0x400 +
      (trailing - 0xDC00))

/- The text of pieces, unless a half of a pair is missing. -/
def joinPieces : List Piece → Option (List Char)
| [] => some []
| .char c :: rest => (joinPieces rest).map (c :: ·)
| .unit n :: rest =>
    if isTrailing n then none
    else if isLeading n then
      match rest with
      | .unit m :: rest =>
          if isTrailing m then
            (joinPieces rest).map (ofPair n m :: ·)
          else none
      | _ => none
    else (joinPieces rest).map (Char.ofNat n :: ·)

/- The character that a letter behind a backslash names. -/
def escaped? (letter : Char) : Option Char :=
  match letter with
  | '"' => some '"'
  | '\\' => some '\\'
  | '/' => some '/'
  | 'b' => some '\x08'
  | 'f' => some '\x0c'
  | 'n' => some '\n'
  | 'r' => some '\r'
  | 't' => some '\t'
  | _ => none

/- Put a piece in front of the pieces read behind it. -/
def consPiece
    (piece : Piece)
    (tail : Option (List Piece × List Char)) :
    Option (List Piece × List Char) :=
  tail.map fun (pieces, rest) => (piece :: pieces, rest)

/- Read the pieces of a string up to its quote. -/
def readPieces :
    List Char → Option (List Piece × List Char)
| [] => none
| '\\' :: 'u' :: a :: b :: c :: d :: rest =>
    match Numeral.ofDigits? 16 [a, b, c, d] with
    | some n => consPiece (.unit n) (readPieces rest)
    | none => none
| '\\' :: letter :: rest =>
    match escaped? letter with
    | some c => consPiece (.char c) (readPieces rest)
    | none => none
| c :: rest =>
    if c = '"' then some ([], rest)
    else if c.toNat < 32 || c = '\\' then none
    else consPiece (.char c) (readPieces rest)

/- Read a string behind its first quote. -/
def readString
    (text : List Char) :
    Option (Option String × List Char) :=
  (readPieces text).map fun (pieces, rest) =>
    ((joinPieces pieces).map String.ofList, rest)

------------------------------------------------------------
-- Numbers
------------------------------------------------------------

/- Split off the digits in front. -/
def takeDigits (text : List Char) : List Char × List Char :=
  (text.takeWhile Char.isDigit, text.dropWhile Char.isDigit)

/- Read at least one digit behind characters read so far. -/
def readDigits
    (before text : List Char) :
    Option (List Char × List Char) :=
  match takeDigits text with
  | ([], _) => none
  | (digits, rest) => some (before ++ digits, rest)

/- Read digits without a zero in front of others. -/
def readInteger
    (before : List Char) :
    List Char → Option (List Char × List Char)
| '0' :: rest =>
    if (rest.head?.any Char.isDigit) then none
    else some (before ++ ['0'], rest)
| text => readDigits before text

/- Read the digits behind a point, if there is one. -/
def readFraction
    (before : List Char) :
    List Char → Option (List Char × List Char)
| '.' :: rest => readDigits (before ++ ['.']) rest
| text => some (before, text)

/- Read an exponent, if there is one. -/
def readExponent
    (before : List Char) :
    List Char → Option (List Char × List Char)
| [] => some (before, [])
| c :: rest =>
    if c = 'e' || c = 'E' then
      match rest with
      | '+' :: rest => readDigits (before ++ [c, '+']) rest
      | '-' :: rest => readDigits (before ++ [c, '-']) rest
      | rest => readDigits (before ++ [c]) rest
    else some (before, c :: rest)

/- Read a number and keep its text. -/
def readNumber
    (text : List Char) : Option (List Char × List Char) :=
  let start :=
    match text with
    | '-' :: rest => (['-'], rest)
    | text => ([], text)
  (readInteger start.1 start.2).bind fun (digits, rest) =>
    (readFraction digits rest).bind fun (digits, rest) =>
      readExponent digits rest

------------------------------------------------------------
-- Values
------------------------------------------------------------

/- Read a word that stands for a value. -/
def readWord
    (word : String)
    (value : Json)
    (text : List Char) : Option (Json × List Char) :=
  (Text.stripBeginning word.toList text).map fun rest =>
    (value, rest)

/- The name of a field, and the text behind its colon. -/
def readName
    (text : List Char) :
    Option (Option String × List Char) :=
  match skip text with
  | '"' :: rest =>
      match readString rest with
      | some (name, rest) =>
          match skip rest with
          | ':' :: rest => some (name, rest)
          | _ => none
      | none => none
  | _ => none

/-
  The counter exceeds twice the length of the text left: a
  value takes a character, and so do an item and a field
  with the value in them.
-/
mutual

/- Read a value. -/
def readValue :
    Nat → List Char → Option (Json × List Char)
| 0, _ => none
| fuel + 1, text =>
    match skip text with
    | [] => none
    | c :: rest =>
        match c with
        | '"' =>
            (readString rest).map fun (text, rest) =>
              (.string text, rest)
        | '[' =>
            match skip rest with
            | ']' :: rest => some (.array [], rest)
            | rest =>
                (readItems fuel rest).map
                  fun (items, rest) => (.array items, rest)
        | '\x7b' =>
            match skip rest with
            | '\x7d' :: rest => some (.object [], rest)
            | rest =>
                (readFields fuel rest).map
                  fun (fields, rest) =>
                    (.object fields, rest)
        | 't' => readWord "true" (.bool true) (c :: rest)
        | 'f' => readWord "false" (.bool false) (c :: rest)
        | 'n' => readWord "null" .null (c :: rest)
        | _ =>
            (readNumber (c :: rest)).map
              fun (digits, rest) => (.number digits, rest)

/- Read the items of an array up to its bracket. -/
def readItems :
    Nat → List Char → Option (List Json × List Char)
| 0, _ => none
| fuel + 1, text =>
    match readValue fuel text with
    | none => none
    | some (item, rest) =>
        match skip rest with
        | ']' :: rest => some ([item], rest)
        | ',' :: rest =>
            (readItems fuel rest).map fun (items, rest) =>
              (item :: items, rest)
        | _ => none

/- Read the fields of an object up to its brace. -/
def readFields :
    Nat → List Char →
      Option (List (Option String × Json) × List Char)
| 0, _ => none
| fuel + 1, text =>
    match readName text with
    | none => none
    | some (name, rest) =>
        match readValue fuel rest with
        | none => none
        | some (value, rest) =>
            match skip rest with
            | '\x7d' :: rest => some ([(name, value)], rest)
            | ',' :: rest =>
                (readFields fuel rest).map
                  fun (fields, rest) =>
                    ((name, value) :: fields, rest)
            | _ => none

end

/- The value that a text holds. -/
def read? (text : String) : Option Json :=
  match readValue (2 * text.toList.length + 2)
      text.toList with
  | some (json, rest) =>
      if (skip rest).isEmpty then some json else none
  | none => none

end Json

end TreeKeeper
