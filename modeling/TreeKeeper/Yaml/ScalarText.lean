import TreeKeeper.Text.Numeral
import TreeKeeper.Yaml.Cursor

/-
  The texts of scalars: plain words, quoted texts and blocks
  of lines.  Line breaks inside are folded: one break becomes
  a space, and of several breaks the first one is dropped.

  Key definitions include:
    * `Yaml.Gap`
    * `Yaml.Gap.fold`
    * `Yaml.readPlain`
    * `Yaml.readQuoted`
    * `Yaml.readBlock`
-/

------------------------------------------------------------
-- Gaps Between Words
------------------------------------------------------------

namespace TreeKeeper

namespace Yaml

/-
  What has been read since the last word: the blanks up to
  the end of the line, the break there, and the breaks of
  empty lines.
-/
structure Gap where
  blanks : List Char := []
  isBroken : Bool := false
  first : Option Char := none
  breaks : List Char := []

namespace Gap

/- Add a blank, which counts only within a line. -/
def addBlank (gap : Gap) (c : Char) : Gap :=
  if gap.isBroken then gap
  else { gap with blanks := gap.blanks ++ [c] }

/- Add a line break. -/
def addBreak (gap : Gap) (c : Char) : Gap :=
  if gap.isBroken then
    { gap with breaks := gap.breaks ++ [c] }
  else
    { gap with blanks := [], isBroken := true, first := c }

/- The gap behind an escaped line break. -/
def escapedBreak : Gap :=
  { isBroken := true }

/- The text that a gap stands for. -/
def fold (gap : Gap) : List Char :=
  if gap.isBroken then
    if gap.first = some '\n' then
      if gap.breaks.isEmpty then [' '] else gap.breaks
    else gap.first.toList ++ gap.breaks
  else gap.blanks

end Gap

------------------------------------------------------------
-- Plain Words
------------------------------------------------------------

/- The context that words stand in. -/
structure Context where
  inFlow : Bool
  indent : Nat

/- A scalar with the place behind it. -/
structure ScalarText where
  text : List Char
  after : Cursor
  sawBreak : Bool := false

/- Whether a colon at a place is followed by what it forbids. -/
def forbidsColon
    (context : Context)
    (cursor : Cursor) : Bool :=
  context.inFlow && cursor.isAt ':' &&
    (cursor.charAt? 1).any fun c =>
      isFlowIndicator c || c == '?'

/- Whether a character at a place ends plain words. -/
def endsPlain
    (context : Context)
    (cursor : Cursor) : Bool :=
  (cursor.isAt ':' && cursor.endsWordAt 1) ||
    (context.inFlow && cursor.char?.any isFlowIndicator)

/- Whether no further word may begin at a place. -/
def endsWords
    (context : Context)
    (cursor : Cursor) : Bool :=
  (!context.inFlow && cursor.column < context.indent) ||
    cursor.atDocumentMarker || cursor.isAt '#'

/-
  Read plain words behind a text read so far, which is kept
  in reverse.  The flag tells whether the place lies within
  a word.
-/
def readPlainFrom
    (context : Context) :
    Nat → Bool → List Char → Gap → Cursor →
      Option ScalarText
| 0, _, _, _, _ => none
| fuel + 1, inWord, text, gap, cursor =>
    let stop := some {
      text := text.reverse
      after := cursor
      sawBreak := gap.isBroken }
    match cursor.char? with
    | none => stop
    | some c =>
        if isBlank c then
          if gap.isBroken && c == '\t' &&
              cursor.column < context.indent then none
          else
            readPlainFrom context fuel false text
              (gap.addBlank c) cursor.next
        else
          match cursor.breakChar? with
          | some b =>
              readPlainFrom context fuel false text
                (gap.addBreak b) cursor.nextLine
          | none =>
              if !inWord && endsWords context cursor then
                stop
              else if forbidsColon context cursor then none
              else if endsPlain context cursor then stop
              else
                readPlainFrom context fuel true
                  (c :: (gap.fold.reverse ++ text)) {}
                  cursor.next

/-
  Read the plain words at a place.  The first word may begin
  anywhere.
-/
def readPlain
    (context : Context)
    (cursor : Cursor) : Option ScalarText :=
  readPlainFrom context (cursor.rest.length + 1) true [] {}
    cursor

------------------------------------------------------------
-- Quoted Texts
------------------------------------------------------------

/- What the letter behind a backslash stands for. -/
inductive Escape where
| char (c : Char)
| code (digits : Nat)

/- The meaning of the letter behind a backslash. -/
def Escape.ofLetter? (letter : Char) : Option Escape :=
  match letter with
  | '0' => some (char '\x00')
  | 'a' => some (char '\x07')
  | 'b' => some (char '\x08')
  | 't' => some (char '\t')
  | '\t' => some (char '\t')
  | 'n' => some (char '\n')
  | 'v' => some (char '\x0b')
  | 'f' => some (char '\x0c')
  | 'r' => some (char '\r')
  | 'e' => some (char '\x1b')
  | ' ' => some (char ' ')
  | '"' => some (char '"')
  | '/' => some (char '/')
  | '\\' => some (char '\\')
  | 'N' => some (char '\u0085')
  | '_' => some (char '\u00a0')
  | 'L' => some (char '\u2028')
  | 'P' => some (char '\u2029')
  | 'x' => some (code 2)
  | 'u' => some (code 4)
  | 'U' => some (code 8)
  | _ => none

/- The character with a given code. -/
def charOfCode? (code : Nat) : Option Char :=
  if code < 0xD800 || (0xE000 ≤ code && code < 0x110000) then
    some (Char.ofNat code)
  else none

/- Read the escape behind a backslash. -/
def readEscape
    (cursor : Cursor) : Option (Char × Cursor) :=
  match cursor.char?.bind Escape.ofLetter? with
  | none => none
  | some (.char c) => some (c, cursor.next)
  | some (.code count) =>
      let digits := cursor.next.rest.take count
      if digits.length = count then
        match (Numeral.ofDigits? 16 digits).bind
            charOfCode? with
        | some c => some (c, cursor.skip (count + 1))
        | none => none
      else none

/- The quotes around a text. -/
inductive Quotes where
| single
| double
deriving DecidableEq

/- The character of quotes. -/
def Quotes.char : Quotes → Char
| single => '\''
| double => '"'

/-
  Read a quoted text behind a text read so far, which is
  kept in reverse.
-/
def readQuotedFrom
    (quotes : Quotes) :
    Nat → List Char → Gap → Cursor → Option ScalarText
| 0, _, _, _ => none
| fuel + 1, text, gap, cursor =>
    let folded := gap.fold.reverse ++ text
    match cursor.char? with
    | none => none
    | some c =>
        if cursor.atDocumentMarker then none
        else if isBlank c then
          readQuotedFrom quotes fuel text (gap.addBlank c)
            cursor.next
        else
          match cursor.breakChar? with
          | some b =>
              readQuotedFrom quotes fuel text
                (gap.addBreak b) cursor.nextLine
          | none =>
              if c = quotes.char then
                if quotes = .single &&
                    cursor.charAt? 1 = some c then
                  readQuotedFrom quotes fuel (c :: folded) {}
                    (cursor.skip 2)
                else
                  some {
                    text := folded.reverse
                    after := cursor.next }
              else if quotes = .double && c = '\\' then
                if cursor.next.atBreak then
                  readQuotedFrom quotes fuel folded
                    Gap.escapedBreak cursor.next.nextLine
                else
                  match readEscape cursor.next with
                  | some (d, after) =>
                      readQuotedFrom quotes fuel
                        (d :: folded) {} after
                  | none => none
              else
                readQuotedFrom quotes fuel (c :: folded) {}
                  cursor.next

/- Read the quoted text at a place. -/
def readQuoted
    (quotes : Quotes)
    (cursor : Cursor) : Option ScalarText :=
  readQuotedFrom quotes (cursor.rest.length + 1) [] {}
    cursor.next

------------------------------------------------------------
-- Blocks Of Lines
------------------------------------------------------------

/- What happens to the breaks at the end of a block. -/
inductive Chomping where
| strip
| clip
| keep
deriving DecidableEq

/- The header of a block. -/
structure BlockHeader where
  chomping : Chomping := .clip
  indent : Option Nat := none

/- Read the sign that tells what happens to the breaks. -/
def readChomping
    (cursor : Cursor) : Option (Chomping × Cursor) :=
  match cursor.char? with
  | some '+' => some (.keep, cursor.next)
  | some '-' => some (.strip, cursor.next)
  | _ => none

/- Read the digit that tells the indentation, if it is one. -/
def readIndentDigit
    (cursor : Cursor) : Option (Option Nat × Cursor) :=
  match cursor.char? with
  | some c =>
      if c = '0' then none
      else if c.isDigit then
        some (some (c.toNat - '0'.toNat), cursor.next)
      else some (none, cursor)
  | none => some (none, cursor)

/- Read the header of a block behind its indicator. -/
def readBlockHeader
    (cursor : Cursor) : Option (BlockHeader × Cursor) :=
  match readChomping cursor with
  | some (chomping, cursor) =>
      (readIndentDigit cursor).map fun (indent, cursor) =>
        (⟨chomping, indent⟩, cursor)
  | none =>
      match readIndentDigit cursor with
      | none => none
      | some (none, cursor) => some ({}, cursor)
      | some (some n, cursor) =>
          match readChomping cursor with
          | some (chomping, cursor) =>
              some (⟨chomping, some n⟩, cursor)
          | none => some ({ indent := some n }, cursor)

/- Step to the next line behind a header. -/
def endHeader (cursor : Cursor) : Option Cursor :=
  let cursor := cursor.skipWhile isBlank
  let cursor :=
    if cursor.isAt '#' then cursor.skipToLineEnd
    else cursor
  if cursor.atBreak then some cursor.nextLine
  else if cursor.atEnd then some cursor
  else none

/- Step over the spaces in front of a column. -/
def skipIndent : Nat → Cursor → Cursor
| 0, cursor => cursor
| fuel + 1, cursor =>
    if cursor.isAt ' ' then skipIndent fuel cursor.next
    else cursor

/- Empty lines in front of a line of a block. -/
structure EmptyLines where
  breaks : List Char
  widest : Nat
  after : Cursor

/-
  Read empty lines.  Without a known indentation, all spaces
  count as indentation.  A tab may not stand within it.
-/
def readEmptyLines
    (indent : Option Nat) :
    Nat → EmptyLines → Option EmptyLines
| 0, _ => none
| fuel + 1, lines =>
    let room :=
      match indent with
      | some n => n - lines.after.column
      | none => lines.after.rest.length
    let cursor := skipIndent room lines.after
    let widest := max lines.widest cursor.column
    if cursor.isAt '\t' &&
        indent.all (fun n => cursor.column < n) then none
    else
      match cursor.breakChar? with
      | some b =>
          readEmptyLines indent fuel {
            breaks := lines.breaks ++ [b]
            widest := widest
            after := cursor.nextLine }
      | none =>
          some {
            breaks := lines.breaks
            widest := widest
            after := cursor }

/- Read the empty lines at a place. -/
def emptyLinesAt
    (indent : Option Nat)
    (cursor : Cursor) : Option EmptyLines :=
  readEmptyLines indent (cursor.rest.length + 1) {
    breaks := []
    widest := 0
    after := cursor }

/- A block as far as it has been read. -/
structure BlockState where
  text : List Char := []
  lastBreak : List Char := []
  breaks : List Char := []
  afterBlank : Bool := false

/-
  The breaks in front of a line.  In a folded block a single
  break between lines that begin with no blank is a space.
-/
def BlockState.join
    (state : BlockState)
    (isFolded beginsBlank : Bool) : List Char :=
  if isFolded && state.lastBreak.head? == some '\n' &&
      !state.afterBlank && !beginsBlank then
    if state.breaks.isEmpty then [' '] else state.breaks
  else state.lastBreak ++ state.breaks

/- Read the lines of a block with a known indentation. -/
def readBlockLines
    (isFolded : Bool)
    (indent : Nat) :
    Nat → BlockState → Cursor →
      Option (BlockState × Cursor)
| 0, _, _ => none
| fuel + 1, state, cursor =>
    if cursor.column = indent && !cursor.atEnd then
      let beginsBlank := cursor.atBlank
      let line :=
        cursor.rest.takeWhile fun c => !isBreak c
      let afterLine := cursor.skipToLineEnd
      let lastBreak := afterLine.breakChar?.toList
      let afterBreak :=
        if afterLine.atBreak then afterLine.nextLine
        else afterLine
      match emptyLinesAt (some indent) afterBreak with
      | none => none
      | some lines =>
          readBlockLines isFolded indent fuel {
            text :=
              state.text ++ state.join isFolded beginsBlank ++
                line
            lastBreak := lastBreak
            breaks := lines.breaks
            afterBlank := beginsBlank }
            lines.after
    else some (state, cursor)

/- The text of a block, with the breaks at its end. -/
def BlockState.finish
    (state : BlockState)
    (chomping : Chomping) : List Char :=
  match chomping with
  | .strip => state.text
  | .clip => state.text ++ state.lastBreak
  | .keep => state.text ++ state.lastBreak ++ state.breaks

/-
  Read the block at a place.  The indentation is the one in
  the header, or that of the widest line up to the first one
  that is not empty, and at least one more than outside.
-/
def readBlock
    (isFolded : Bool)
    (outer : Int)
    (cursor : Cursor) : Option ScalarText := do
  let (header, cursor) ← readBlockHeader cursor.next
  let start ← endHeader cursor
  let given := header.indent.map fun n =>
    if 0 ≤ outer then outer.toNat + n else n
  let lines ← emptyLinesAt given start
  let indent := given.getD
    (max lines.widest (max (outer + 1).toNat 1))
  let (state, after) ←
    readBlockLines isFolded indent
      (cursor.rest.length + 1)
      { breaks := lines.breaks } lines.after
  return {
    text := state.finish header.chomping
    after := after }

end Yaml

end TreeKeeper
