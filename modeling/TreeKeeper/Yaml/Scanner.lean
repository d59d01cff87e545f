import TreeKeeper.Yaml.ScalarText
import TreeKeeper.Yaml.Token

/-
  The tokens of a YAML text.  Indentation opens and closes
  block collections.  A node becomes a key when a colon
  follows it on its line, so the place where a key may begin
  is remembered until the colon comes or cannot come.

  Key definitions include:
    * `Yaml.PossibleKey`
    * `Yaml.Scanner`
    * `Yaml.Scanner.take`
    * `Yaml.Scanner.run`
    * `Yaml.tokensOf?`
-/

------------------------------------------------------------
-- State
------------------------------------------------------------

namespace TreeKeeper

namespace Yaml

/-
  A node that may turn out to be a key: the number of tokens
  in front of it, its place, and whether it must be one.
-/
structure PossibleKey where
  position : Nat
  index : Nat
  line : Nat
  column : Nat
  isRequired : Bool

/-
  The state of reading tokens.  There is one possible key for
  each flow collection that is open, and one for the block
  around them.
-/
structure Scanner where
  cursor : Cursor
  tokens : Array Token := #[]
  indent : Int := -1
  indents : List Int := []
  blockKey : Option PossibleKey := none
  flowKeys : List (Option PossibleKey) := []
  allowsKey : Bool := true

namespace Scanner

/- Whether the place lies within a flow collection. -/
def inFlow (s : Scanner) : Bool :=
  !s.flowKeys.isEmpty

/- Add a token. -/
def push (s : Scanner) (token : Token) : Scanner :=
  { s with tokens := s.tokens.push token }

/- Insert a token behind a number of tokens. -/
def insert
    (s : Scanner)
    (position : Nat)
    (token : Token) : Scanner :=
  { s with
    tokens :=
      (s.tokens.extract 0 position).push token ++
        s.tokens.extract position s.tokens.size }

/- Step over some characters within a line. -/
def skip (s : Scanner) (n : Nat) : Scanner :=
  { s with cursor := s.cursor.skip n }

/- Say whether a key may begin at the place. -/
def allow (s : Scanner) (allowsKey : Bool) : Scanner :=
  { s with allowsKey := allowsKey }

------------------------------------------------------------
-- Possible Keys
------------------------------------------------------------

/- The possible key of the innermost collection. -/
def key? (s : Scanner) : Option PossibleKey :=
  match s.flowKeys with
  | key :: _ => key
  | [] => s.blockKey

/- Replace the possible key of the innermost collection. -/
def setKey
    (s : Scanner)
    (key : Option PossibleKey) : Scanner :=
  match s.flowKeys with
  | _ :: keys => { s with flowKeys := key :: keys }
  | [] => { s with blockKey := key }

/- Give up the possible key, which must not be required. -/
def dropKey (s : Scanner) : Option Scanner :=
  if s.key?.any PossibleKey.isRequired then none
  else some (s.setKey none)

/- Remember that a key may begin at the place. -/
def saveKey (s : Scanner) : Option Scanner :=
  if s.allowsKey then
    s.dropKey.map fun s =>
      s.setKey (some {
        position := s.tokens.size
        index := s.cursor.index
        line := s.cursor.line
        column := s.cursor.column
        isRequired :=
          !s.inFlow &&
            s.indent == (s.cursor.column : Int) })
  else some s

/-
  Whether no colon can follow a possible key any more: keys
  stay within a line and within 1024 characters.
-/
def isStale (s : Scanner) (key : PossibleKey) : Bool :=
  key.line < s.cursor.line ||
    key.index + 1024 < s.cursor.index

/- Give up one possible key if it is stale. -/
def dropIfStale
    (s : Scanner) :
    Option PossibleKey → Option (Option PossibleKey)
| none => some none
| some key =>
    if s.isStale key then
      if key.isRequired then none else some none
    else some (some key)

/- Give up all possible keys that are stale. -/
def dropStaleKeys (s : Scanner) : Option Scanner := do
  let blockKey ← s.dropIfStale s.blockKey
  let flowKeys ← s.flowKeys.mapM s.dropIfStale
  return {
    s with blockKey := blockKey, flowKeys := flowKeys }

------------------------------------------------------------
-- Indentation
------------------------------------------------------------

/-
  Open a block collection at a column that lies further in
  than the block around it.
-/
def openBlock
    (s : Scanner)
    (column position : Nat)
    (token : Token) : Scanner :=
  if !s.inFlow && s.indent < (column : Int) then
    { s.insert position token with
      indents := s.indent :: s.indents
      indent := column }
  else s

/- Close one block collection. -/
def closeBlock
    (s : Scanner)
    (indent : Int)
    (indents : List Int) : Scanner :=
  { s.push .blockEnd with
    indent := indent, indents := indents }

/- Close the given blocks while they lie further in. -/
def closeBlocksTo
    (column : Int) :
    List Int → Scanner → Scanner
| [], s => s
| indent :: indents, s =>
    if column < s.indent then
      closeBlocksTo column indents
        (s.closeBlock indent indents)
    else s

/- Close the blocks that lie further in than a column. -/
def closeBlocks (s : Scanner) (column : Int) : Scanner :=
  if s.inFlow then s
  else closeBlocksTo column s.indents s

------------------------------------------------------------
-- Blanks And Comments
------------------------------------------------------------

/-
  Step over blanks.  Outside of flow collections, a tab may
  not stand where a key may begin.
-/
def skipBlanks (s : Scanner) : Scanner :=
  let tabs := s.inFlow || !s.allowsKey
  { s with
    cursor :=
      s.cursor.skipWhile fun c =>
        c == ' ' || (tabs && c == '\t') }

/- Step over a comment. -/
def skipComment (s : Scanner) : Scanner :=
  if s.cursor.isAt '#' then
    { s with cursor := s.cursor.skipToLineEnd }
  else s

/-
  Step to the next token.  Outside of flow collections, a key
  may begin on each line.
-/
def skipToToken : Nat → Scanner → Scanner
| 0, s => s
| fuel + 1, s =>
    let s := s.skipBlanks.skipComment
    if s.cursor.atBreak then
      skipToToken fuel {
        s with
        cursor := s.cursor.nextLine
        allowsKey := s.allowsKey || !s.inFlow }
    else s

/- Step over the mark that may stand at the very start. -/
def skipMark (s : Scanner) : Scanner :=
  if s.cursor.index == 0 && s.cursor.isAt '\ufeff' then
    s.skip 1
  else s

------------------------------------------------------------
-- Markers And Directives
------------------------------------------------------------

/- Leave all blocks in front of a marker. -/
def leaveBlocks (s : Scanner) : Option Scanner :=
  ((s.closeBlocks (-1)).dropKey).map fun s => s.allow false

/- Take the marker of a document. -/
def takeMarker
    (s : Scanner)
    (token : Token) : Option Scanner :=
  s.leaveBlocks.map fun s => (s.skip 3).push token

/- A number of at most nine digits at a place. -/
def versionNumber?
    (cursor : Cursor) : Option (Nat × Cursor) :=
  let digits := cursor.rest.takeWhile Char.isDigit
  if digits.length ≤ 9 then
    (Numeral.ofDigits? 10 digits).map fun n =>
      (n, cursor.skip digits.length)
  else none

/- Read the version in a directive. -/
def readVersion
    (cursor : Cursor) : Option (Token × Cursor) := do
  let (major, cursor) ←
    versionNumber? (cursor.skipWhile isBlank)
  if cursor.isAt '.' then
    let (minor, cursor) ← versionNumber? cursor.next
    return (.versionDirective major minor, cursor)
  else none

/- The handle of a tag: two marks with letters in between. -/
def readHandle
    (cursor : Cursor) : Option (List Char × Cursor) :=
  if cursor.isAt '!' then
    let word := cursor.next.rest.takeWhile isWordChar
    let after := cursor.next.skip word.length
    if after.isAt '!' then
      some ('!' :: word ++ ['!'], after.next)
    else some ('!' :: word, after)
  else none

/- Whether a character may occur in a tag. -/
def isTagChar (verbatim : Bool) (c : Char) : Bool :=
  isWordChar c ||
    ";/?:@&=+$.!~*'()".toList.contains c ||
    (verbatim && ",[]".toList.contains c)

/- The number of bytes of a character with a first byte. -/
def escapedLength? (byte : Nat) : Option Nat :=
  if byte < 0x80 then some 1
  else if byte < 0xC0 then none
  else if byte < 0xE0 then some 2
  else if byte < 0xF0 then some 3
  else if byte < 0xF8 then some 4
  else none

/- Read some bytes that are escaped with percent signs. -/
def readEscapedBytes :
    Nat → Cursor → Option (List UInt8 × Cursor)
| 0, cursor => some ([], cursor)
| n + 1, cursor =>
    match cursor.rest with
    | '%' :: a :: b :: _ =>
        match Numeral.ofDigits? 16 [a, b] with
        | some byte =>
            (readEscapedBytes n (cursor.skip 3)).map
              fun (bytes, cursor) =>
                (UInt8.ofNat byte :: bytes, cursor)
        | none => none
    | _ => none

/- Read a character that is escaped with percent signs. -/
def readEscapedChar
    (cursor : Cursor) : Option (List Char × Cursor) := do
  let (first, _) ← readEscapedBytes 1 cursor
  let byte ← first.head?
  let count ← escapedLength? byte.toNat
  let (bytes, cursor) ← readEscapedBytes count cursor
  let text ← String.fromUTF8? ⟨bytes.toArray⟩
  return (text.toList, cursor)

/- Read the characters of a tag. -/
def readTagChars
    (verbatim : Bool) :
    Nat → List Char → Cursor → Option (List Char × Cursor)
| 0, text, cursor => some (text, cursor)
| fuel + 1, text, cursor =>
    match cursor.char? with
    | some '%' =>
        match readEscapedChar cursor with
        | some (c, after) =>
            readTagChars verbatim fuel (text ++ c) after
        | none => none
    | some c =>
        if isTagChar verbatim c then
          readTagChars verbatim fuel (text ++ [c])
            cursor.next
        else some (text, cursor)
    | none => some (text, cursor)

/- Read the characters of a tag up to where they end. -/
def readTagText
    (verbatim : Bool)
    (cursor : Cursor) : Option (List Char × Cursor) :=
  readTagChars verbatim cursor.rest.length [] cursor

/- Read a handle and its meaning in a directive. -/
def readTagDirective
    (cursor : Cursor) : Option (Token × Cursor) := do
  let (handle, cursor) ←
    readHandle (cursor.skipWhile isBlank)
  if handle ≠ ['!'] && handle.getLast? ≠ some '!' then none
  else if !cursor.atBlank then none
  else
    let (tagStart, cursor) ←
      readTagText true (cursor.skipWhile isBlank)
    if tagStart.isEmpty then none
    else if cursor.endsWordAt 0 then
      return (.tagDirective handle tagStart, cursor)
    else none

/- Take a directive with the rest of its line. -/
def takeDirective (s : Scanner) : Option Scanner := do
  let s ← s.leaveBlocks
  let name := s.cursor.next.rest.takeWhile isWordChar
  let cursor := s.cursor.skip (name.length + 1)
  if !cursor.endsWordAt 0 then none
  else
    let (token, cursor) ←
      if name = "YAML".toList then readVersion cursor
      else if name = "TAG".toList then
        readTagDirective cursor
      else none
    let after ← endHeader cursor
    return ({ s with cursor := after }).push token

------------------------------------------------------------
-- Indicators
------------------------------------------------------------

/- Take the beginning of a flow collection. -/
def openFlow
    (s : Scanner)
    (token : Token) : Option Scanner :=
  s.saveKey.map fun s =>
    ({ s with
        flowKeys := none :: s.flowKeys
        allowsKey := true }.skip 1).push token

/- Take the end of a flow collection. -/
def closeFlow
    (s : Scanner)
    (token : Token) : Option Scanner :=
  s.dropKey.map fun s =>
    ({ s with
        flowKeys := s.flowKeys.tail
        allowsKey := false }.skip 1).push token

/- Take the comma of a flow collection. -/
def takeFlowEntry (s : Scanner) : Option Scanner :=
  s.dropKey.map fun s =>
    ((s.allow true).skip 1).push .flowEntry

/- Open a block at the place, where a key must be allowed. -/
def openBlockHere
    (s : Scanner)
    (token : Token) : Option Scanner :=
  if s.inFlow then some s
  else if s.allowsKey then
    some (s.openBlock s.cursor.column s.tokens.size token)
  else none

/- Take the hyphen of an item. -/
def takeBlockEntry (s : Scanner) : Option Scanner := do
  let s ← s.openBlockHere .blockSequenceStart
  let s ← s.dropKey
  return ((s.allow true).skip 1).push .blockEntry

/- Take the question mark of a key. -/
def takeKey (s : Scanner) : Option Scanner := do
  let s ← s.openBlockHere .blockMappingStart
  let s ← s.dropKey
  return ((s.allow (!s.inFlow)).skip 1).push .key

/- Take the colon of a value, and make its key one. -/
def takeValue (s : Scanner) : Option Scanner :=
  match s.key? with
  | some key =>
      let s := s.insert key.position .key
      let s :=
        s.openBlock key.column key.position
          .blockMappingStart
      some ((((s.setKey none).allow false).skip 1).push
        .value)
  | none =>
      (s.openBlockHere .blockMappingStart).map fun s =>
        ((s.allow (!s.inFlow)).skip 1).push .value

------------------------------------------------------------
-- Parts Of Nodes
------------------------------------------------------------

/- Whether a name may end in front of a character. -/
def endsName (c : Char) : Bool :=
  isBlank c || isBreak c ||
    "?:,]\x7d%@\x60".toList.contains c

/- Take a name behind an ampersand or a star. -/
def takeName
    (s : Scanner)
    (token : List Char → Token) : Option Scanner := do
  let s ← s.saveKey
  let name := s.cursor.next.rest.takeWhile isWordChar
  let cursor := s.cursor.skip (name.length + 1)
  if name.isEmpty || !cursor.char?.all endsName then none
  else
    return ({ s with cursor := cursor }.allow false).push
      (token name)

/- Read a tag between angle brackets. -/
def readVerbatimTag
    (cursor : Cursor) : Option (TagText × Cursor) := do
  let (text, after) ← readTagText true (cursor.skip 2)
  if text.isEmpty || !after.isAt '>' then none
  else return (⟨[], text⟩, after.next)

/- Read a tag that may begin with a handle. -/
def readShortTag
    (cursor : Cursor) : Option (TagText × Cursor) := do
  let (head, after) ← readHandle cursor
  if head.length > 1 && head.getLast? = some '!' then
    let (suffix, after) ← readTagText false after
    if suffix.isEmpty then none
    else return (⟨head, suffix⟩, after)
  else
    let (more, after) ← readTagText false after
    match head.tail ++ more with
    | [] => return (⟨[], ['!']⟩, after)
    | suffix => return (⟨['!'], suffix⟩, after)

/- Take a tag. -/
def takeTag (s : Scanner) : Option Scanner := do
  let s ← s.saveKey
  let (text, cursor) ←
    if s.cursor.charAt? 1 = some '<' then
      readVerbatimTag s.cursor
    else readShortTag s.cursor
  if cursor.endsWordAt 0 ||
      (s.inFlow && cursor.isAt ',') then
    return ({ s with cursor := cursor }.allow false).push
      (.tag text)
  else none

/- Take a block of lines. -/
def takeBlock
    (s : Scanner)
    (isFolded : Bool) : Option Scanner := do
  let s ← s.dropKey
  let scalar ← readBlock isFolded s.indent s.cursor
  return ({ s with cursor := scalar.after }.allow true).push
    (.scalar false scalar.text)

/- Take a quoted text. -/
def takeQuoted
    (s : Scanner)
    (quotes : Quotes) : Option Scanner := do
  let s ← s.saveKey
  let scalar ← readQuoted quotes s.cursor
  return ({ s with cursor := scalar.after }.allow false).push
    (.scalar false scalar.text)

/- Take plain words. -/
def takePlain (s : Scanner) : Option Scanner := do
  let s ← s.saveKey
  let context := {
    inFlow := s.inFlow
    indent := (s.indent + 1).toNat }
  let scalar ← readPlain context s.cursor
  return (
    { s with cursor := scalar.after }.allow
      scalar.sawBreak).push (.scalar true scalar.text)

/- Whether plain words may begin at a place. -/
def beginsPlain (s : Scanner) (c : Char) : Bool :=
  if c == '-' then !(s.cursor.charAt? 1).any isBlank
  else if c == '?' || c == ':' then
    !s.inFlow && !s.cursor.endsWordAt 1
  else
    !(isBlank c || isBreak c || isFlowIndicator c ||
      "#&*!|>\x27\"%@\x60".toList.contains c)

------------------------------------------------------------
-- Reading Tokens
------------------------------------------------------------

/- Take the token that begins with a given character. -/
def take (s : Scanner) (c : Char) : Option Scanner :=
  let isAlone := s.inFlow || s.cursor.endsWordAt 1
  if s.cursor.column == 0 && c == '%' then s.takeDirective
  else if s.cursor.atMarker '-' then
    s.takeMarker .documentStart
  else if s.cursor.atMarker '.' then
    s.takeMarker .documentEnd
  else if c == '[' then s.openFlow .flowSequenceStart
  else if c == '\x7b' then s.openFlow .flowMappingStart
  else if c == ']' then s.closeFlow .flowSequenceEnd
  else if c == '\x7d' then s.closeFlow .flowMappingEnd
  else if c == ',' then s.takeFlowEntry
  else if c == '-' && s.cursor.endsWordAt 1 then
    s.takeBlockEntry
  else if c == '?' && isAlone then s.takeKey
  else if c == ':' && isAlone then s.takeValue
  else if c == '*' then s.takeName .alias
  else if c == '&' then s.takeName .anchor
  else if c == '!' then s.takeTag
  else if c == '|' && !s.inFlow then s.takeBlock false
  else if c == '>' && !s.inFlow then s.takeBlock true
  else if c == '\'' then s.takeQuoted .single
  else if c == '"' then s.takeQuoted .double
  else if s.beginsPlain c then s.takePlain
  else none

/- Close what is open at the end of a text. -/
def finish (s : Scanner) : Option Scanner :=
  (s.closeBlocks (-1)).dropKey

/- Read tokens up to the end of the text. -/
def run : Nat → Scanner → Option Scanner
| 0, _ => none
| fuel + 1, s =>
    match (skipToToken (s.cursor.rest.length + 1)
        s.skipMark).dropStaleKeys with
    | none => none
    | some s =>
        let s := s.closeBlocks s.cursor.column
        match s.cursor.char? with
        | none => s.finish
        | some c =>
            match s.take c with
            | none => none
            | some s => run fuel s

end Scanner

/- The tokens of a text. -/
def tokensOf? (text : String) : Option (List Token) :=
  let chars := text.toList
  if chars.all isPrintable then
    (Scanner.run (chars.length + 2)
      { cursor := { rest := chars } }).map fun s =>
        s.tokens.toList
  else none

end Yaml

end TreeKeeper
