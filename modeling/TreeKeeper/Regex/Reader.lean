import TreeKeeper.Text.Numeral
import TreeKeeper.Character.Property
import TreeKeeper.Regex.Basic
import TreeKeeper.Regex.CharacterClass

/-
  The written form of regular expressions.  Alternatives are
  sequences of pieces, a piece is an atom with any number of
  repetitions, and an atom is a character, a class, an
  anchor or a group.  Modes such as `(?i)` hold up to the end
  of the group they stand in.  Reading fails for text that
  is no expression; look-around and back-references are no
  expressions.

  Key definitions include:
    * `Regex.Modes`
    * `Regex.Reader`
    * `Regex.Atom`
    * `Regex.readEscape`
    * `Regex.readClass`
    * `Regex.readAlternatives`
    * `Regex.read?`
-/

------------------------------------------------------------
-- Reading State
------------------------------------------------------------

namespace TreeKeeper

namespace Regex

/- The modes in force at a place of an expression. -/
structure Modes where
  ignoreCase : Bool := false
  multiLine : Bool := false
  dotAll : Bool := false
  returns : Bool := false
  verbose : Bool := false
  unicode : Bool := true

/-
  What is left to read, the modes, and the names of the
  groups opened so far.
-/
structure Reader where
  rest : List Char
  modes : Modes
  groups : List (List Char) := []

/- The word test that anchors use in a mode. -/
def Modes.wordTest (modes : Modes) : Char → Bool :=
  if modes.unicode then Character.isWord
  else CharacterClass.asciiWord

/- Close a class under case, where the mode asks for it. -/
def Modes.fold
    (modes : Modes)
    (s : CharacterClass) : CharacterClass :=
  if modes.ignoreCase then s.ignoringCase modes.unicode
  else s

/-
  Skip blanks and line comments.  The flag says whether a
  comment is open.
-/
def skipVerbose : Bool → List Char → List Char
| _, [] => []
| true, c :: rest => skipVerbose (c != '\n') rest
| false, c :: rest =>
    if Text.isBlank c then skipVerbose false rest
    else if c = '#' then skipVerbose true rest
    else c :: rest

/- Skip what the verbose mode ignores. -/
def skip
    (modes : Modes)
    (text : List Char) : List Char :=
  if modes.verbose then skipVerbose false text else text

/- Go on behind some text. -/
def Reader.at
    (s : Reader)
    (rest : List Char) : Reader :=
  { s with rest := rest }

/- Go on behind some text and what the mode ignores. -/
def Reader.after
    (s : Reader)
    (rest : List Char) : Reader :=
  { s with rest := skip s.modes rest }

------------------------------------------------------------
-- Numbers And Hexadecimal Escapes
------------------------------------------------------------

/- Skip blanks at the front. -/
def skipBlanks (text : List Char) : List Char :=
  text.dropWhile Text.isBlank

/- Read the decimal digits in front. -/
def takeDigits
    (modes : Modes) :
    Nat → List Char → List Char × List Char
| 0, text => ([], text)
| _ + 1, [] => ([], [])
| fuel + 1, c :: rest =>
    if c.isDigit then
      let (digits, left) :=
        takeDigits modes fuel (skip modes rest)
      (c :: digits, left)
    else ([], c :: rest)

/- Read a count of rounds of at most 32 bits. -/
def readCount
    (modes : Modes)
    (text : List Char) :
    Option (Option Nat × List Char) :=
  let text := skipBlanks text
  let (digits, rest) := takeDigits modes text.length text
  let rest := skipBlanks (skip modes rest)
  if digits.isEmpty then some (none, rest)
  else
    match Numeral.unsigned? 10 UInt32.size digits with
    | some n => some (some n, rest)
    | none => none

/- The character with a hexadecimal number. -/
def ofHexDigits (digits : List Char) : Option Char :=
  match Numeral.ofDigits? 16 digits with
  | some n =>
      if n < 0xD800 ∨ (0xDFFF < n ∧ n ≤ 0x10FFFF) then
        some (Char.ofNat n)
      else none
  | none => none

/- Read a fixed number of hexadecimal digits. -/
def takeHexDigits
    (modes : Modes) :
    Nat → List Char → Option (List Char × List Char)
| 0, text => some ([], text)
| _ + 1, [] => none
| n + 1, c :: rest =>
    if (Numeral.digit? 16 c).isSome then
      (takeHexDigits modes n (skip modes rest)).map
        fun (digits, left) => (c :: digits, left)
    else none

/- Read hexadecimal digits up to a closing brace. -/
def takeHexBraces
    (modes : Modes) :
    Nat → List Char → Option (List Char × List Char)
| 0, _ => none
| _ + 1, [] => none
| fuel + 1, c :: rest =>
    if c = '}' then some ([], skip modes rest)
    else if (Numeral.digit? 16 c).isSome then
      (takeHexBraces modes fuel (skip modes rest)).map
        fun (digits, left) => (c :: digits, left)
    else none

------------------------------------------------------------
-- Escapes
------------------------------------------------------------

/-
  What an escape stands for: a character, a byte given in
  hexadecimal, a class or an anchor.
-/
inductive Atom where
| character (c : Char)
| byte (c : Char)
| members (s : CharacterClass)
| anchor (a : Anchor)

/- Read a hexadecimal escape behind its letter. -/
def readHex
    (modes : Modes)
    (width : Nat)
    (text : List Char) : Option (Atom × List Char) :=
  match skip modes text with
  | [] => none
  | '{' :: rest => do
      let (digits, left) ←
        takeHexBraces modes (rest.length + 1)
          (skip modes rest)
      let c ← ofHexDigits digits
      return (.character c, left)
  | text => do
      let (digits, left) ← takeHexDigits modes width text
      let c ← ofHexDigits digits
      return (if width = 2 then .byte c else .character c,
        left)

/- The name of a property and its value, if it has one. -/
def splitProperty
    (name : List Char) :
    List Char × Option (Bool × List Char) :=
  let head := name.takeWhile fun c =>
    c != '=' && c != ':' && c != '!'
  match name.drop head.length with
  | '!' :: '=' :: value => (head, some (true, value))
  | '=' :: value => (head, some (false, value))
  | ':' :: value => (head, some (false, value))
  | _ => (name, none)

/- The class of a property with an optional value. -/
def propertyClass
    (name : List Char) : Option CharacterClass :=
  match splitProperty name with
  | (name, none) => Character.property? name
  | (name, some (negated, value)) =>
      (Character.propertyWithValue? name value).map
        (CharacterClass.complementIf negated)

/- Read a property escape behind its letter. -/
def readProperty
    (modes : Modes)
    (negated : Bool)
    (text : List Char) : Option (Atom × List Char) :=
  let build := fun (name rest : List Char) =>
    if modes.unicode then
      (propertyClass name).map fun s =>
        (Atom.members
          ((modes.fold s).complementIf negated), rest)
    else none
  match skip modes text with
  | [] => none
  | '\\' :: _ => none
  | '{' :: rest =>
      let name := rest.takeWhile (· != '}')
      match rest.drop name.length with
      | '}' :: left =>
          build
            (if modes.verbose then
              name.filter fun c => !Text.isBlank c
            else name)
            left
      | _ => none
  | c :: rest => build [c] (skip modes rest)

/- The special edges of words that braces name. -/
def readEdge
    (modes : Modes)
    (text : List Char) : Option (Atom × List Char) :=
  let w := modes.wordTest
  let isPart := fun c : Char => c.isAlpha || c == '-'
  match text with
  | '{' :: rest =>
      let body := skip modes rest
      match body with
      | [] => none
      | c :: _ =>
          if isPart c then
            let name := body.takeWhile isPart
            match String.ofList name,
                body.drop name.length with
            | "start", '}' :: left =>
                some (.anchor (.wordStart w), left)
            | "end", '}' :: left =>
                some (.anchor (.wordEnd w), left)
            | "start-half", '}' :: left =>
                some (.anchor (.wordStartHalf w), left)
            | "end-half", '}' :: left =>
                some (.anchor (.wordEndHalf w), left)
            | _, _ => none
          else some (.anchor (.wordEdge w), text)
  | _ => some (.anchor (.wordEdge w), text)

/- The control character that a letter stands for. -/
def controlCharacter? (c : Char) : Option Char :=
  match c with
  | 'a' => some '\x07'
  | 'f' => some '\x0c'
  | 't' => some '\t'
  | 'n' => some '\n'
  | 'r' => some '\r'
  | 'v' => some '\x0b'
  | _ => none

/-
  Read an escape behind its backslash.  Any ASCII character
  that is no letter and no digit stands for itself, except
  for the angle brackets, which are edges of words.
-/
def readEscape
    (modes : Modes) :
    List Char → Option (Atom × List Char)
| [] => none
| 'x' :: rest => readHex modes 2 rest
| 'u' :: rest => readHex modes 4 rest
| 'U' :: rest => readHex modes 8 rest
| 'p' :: rest => readProperty modes false rest
| 'P' :: rest => readProperty modes true rest
| 'A' :: rest => some (.anchor .textStart, rest)
| 'z' :: rest => some (.anchor .textEnd, rest)
| 'b' :: rest => readEdge modes rest
| 'B' :: rest =>
    some (.anchor (.noWordEdge modes.wordTest), rest)
| '<' :: rest =>
    some (.anchor (.wordStart modes.wordTest), rest)
| '>' :: rest =>
    some (.anchor (.wordEnd modes.wordTest), rest)
| c :: rest =>
    match CharacterClass.abbreviated? modes.unicode c with
    | some s =>
        if !modes.unicode && c.isUpper then none
        else some (.members s, rest)
    | none =>
        match controlCharacter? c with
        | some d => some (.character d, rest)
        | none =>
            if c.toNat ≤ 0x7F && !c.isAlphanum then
              some (.character c, rest)
            else none

------------------------------------------------------------
-- Classes In Brackets
------------------------------------------------------------

/- The operators between the parts of a class. -/
inductive ClassOperator where
| inter
| minus
| either

/- Apply an operator to classes closed under case. -/
def ClassOperator.apply
    (modes : Modes)
    (op : ClassOperator)
    (left right : CharacterClass) : CharacterClass :=
  let l := modes.fold left
  let r := modes.fold right
  match op with
  | .inter => l.inter r
  | .minus => l.minus r
  | .either => l.either r

/- Finish an operator whose left side has been read. -/
def finishOperator
    (modes : Modes)
    (pending : Option (ClassOperator × CharacterClass))
    (items : CharacterClass) : CharacterClass :=
  match pending with
  | none => items
  | some (op, left) => op.apply modes left items

/-
  Read an ASCII class such as `[:alpha:]` behind its first
  bracket.  Anything else is left to the caller.
-/
def readNamedClass
    (text : List Char) :
    Option (Bool × CharacterClass × List Char) :=
  match text with
  | ':' :: rest =>
      let (negated, rest) :=
        match rest with
        | '^' :: rest => (true, rest)
        | rest => (false, rest)
      let name := rest.takeWhile (· != ':')
      match rest.drop name.length with
      | ':' :: ']' :: left =>
          (CharacterClass.named? (String.ofList name)).map
            fun s => (negated, s, left)
      | _ => none
  | _ => none

/- The one character that a side of a range stands for. -/
def Atom.character? (modes : Modes) : Atom → Option Char
| .character c =>
    if modes.unicode || c.toNat ≤ 0x7F then some c
    else none
| .byte c =>
    if modes.unicode || c.toNat ≤ 0x7F then some c
    else none
| _ => none

/- The class that a single item stands for. -/
def Atom.members?
    (modes : Modes) :
    Atom → Option CharacterClass
| .members s => some s
| atom => (atom.character? modes).map CharacterClass.single

/- Read one character or escape of a class. -/
def readItem
    (modes : Modes) :
    List Char → Option (Atom × List Char)
| [] => none
| '\\' :: rest => readEscape modes rest
| c :: rest => some (.character c, rest)

/- Whether a hyphen makes a range with what follows it. -/
def startsRange
    (modes : Modes)
    (text : List Char) : Bool :=
  match skip modes text with
  | ']' :: _ => false
  | '-' :: _ => false
  | _ => true

/- Read one item or one range of a class. -/
def readRange
    (modes : Modes)
    (text : List Char) :
    Option (CharacterClass × List Char) := do
  let (first, rest) ← readItem modes text
  match skip modes rest with
  | [] => none
  | '-' :: more =>
      if startsRange modes more then
        let (last, left) ← readItem modes (skip modes more)
        let a ← first.character? modes
        let b ← last.character? modes
        if a.toNat ≤ b.toNat then
          return (CharacterClass.range a b, left)
        else none
      else
        let s ← first.members? modes
        return (s, '-' :: more)
  | rest =>
      let s ← first.members? modes
      return (s, rest)

/- Read the hyphens that begin a class. -/
def readHyphens
    (modes : Modes) :
    Nat → CharacterClass → List Char →
      CharacterClass × List Char
| 0, items, text => (items, text)
| fuel + 1, items, text =>
    match text with
    | '-' :: rest =>
        readHyphens modes fuel
          (items.union (CharacterClass.single '-'))
          (skip modes rest)
    | text => (items, text)

/- Close a class under case and take its complement. -/
def finishClass
    (modes : Modes)
    (negated : Bool)
    (s : CharacterClass) : Option CharacterClass :=
  if negated && !modes.unicode then none
  else some ((modes.fold s).complementIf negated)

/-
  Read the start of a class behind its bracket: a caret, and
  the hyphens or the closing bracket that stand for
  themselves there.
-/
def openClass
    (modes : Modes)
    (text : List Char) :
    Bool × CharacterClass × List Char :=
  let text := skip modes text
  let (negated, text) :=
    match text with
    | '^' :: rest => (true, skip modes rest)
    | text => (false, text)
  let (items, left) :=
    readHyphens modes text.length CharacterClass.none text
  match left with
  | ']' :: rest =>
      if left.length = text.length then
        (negated, CharacterClass.single ']',
          skip modes rest)
      else (negated, items, left)
  | left => (negated, items, left)

mutual

/- Read a class behind its opening bracket. -/
def readClass
    (modes : Modes) :
    Nat → List Char → Option (CharacterClass × List Char)
| 0, _ => none
| fuel + 1, text =>
    let (negated, items, rest) := openClass modes text
    match readItems modes fuel none items rest with
    | none => none
    | some (s, left) =>
        (finishClass modes negated s).map fun t => (t, left)

/- Read the items of a class and its closing bracket. -/
def readItems
    (modes : Modes) :
    Nat → Option (ClassOperator × CharacterClass) →
      CharacterClass → List Char →
      Option (CharacterClass × List Char)
| 0, _, _, _ => none
| fuel + 1, pending, items, text =>
    let operator := fun (op : ClassOperator) rest =>
      readItems modes fuel
        (some (op, finishOperator modes pending items))
        CharacterClass.none rest
    match skip modes text with
    | [] => none
    | ']' :: rest =>
        some (finishOperator modes pending items, rest)
    | '&' :: '&' :: rest => operator .inter rest
    | '-' :: '-' :: rest => operator .minus rest
    | '~' :: '~' :: rest => operator .either rest
    | '[' :: rest =>
        match readNamedClass rest with
        | some (negated, s, left) =>
            match finishClass modes negated s with
            | none => none
            | some t =>
                readItems modes fuel pending
                  (items.union t) left
        | none =>
            match readClass modes fuel rest with
            | none => none
            | some (t, left) =>
                readItems modes fuel pending
                  (items.union t) left
    | text =>
        match readRange modes text with
        | none => none
        | some (t, left) =>
            readItems modes fuel pending
              (items.union t) left

end

------------------------------------------------------------
-- Groups And Modes
------------------------------------------------------------

/- Set one mode by its letter. -/
def Modes.set?
    (modes : Modes)
    (letter : Char)
    (value : Bool) : Option Modes :=
  match letter with
  | 'i' => some { modes with ignoreCase := value }
  | 'm' => some { modes with multiLine := value }
  | 's' => some { modes with dotAll := value }
  | 'R' => some { modes with returns := value }
  | 'x' => some { modes with verbose := value }
  | 'u' => some { modes with unicode := value }
  | 'U' => some modes
  | _ => none

/-
  Read mode letters up to a colon or a closing parenthesis.
  No letter occurs twice, and one hyphen in front of further
  letters turns modes off.
-/
def readModes :
    Modes → List Char → List Char →
      Option (Modes × List Char × List Char)
| _, _, [] => none
| modes, seen, c :: rest =>
    if c = ':' ∨ c = ')' then
      if seen.head? = some '-' then none
      else some (modes, seen, c :: rest)
    else if seen.contains c then none
    else if c = '-' then readModes modes (c :: seen) rest
    else
      match modes.set? c (!seen.contains '-') with
      | some modes => readModes modes (c :: seen) rest
      | none => none

/- Whether a character may stand in the name of a group. -/
def isNamePart (first : Bool) (c : Char) : Bool :=
  c == '_' || (Character.isWord c &&
      !(first && Character.isDecimal c)) ||
    (!first && (c == '.' || c == '[' || c == ']'))

/- Read the name of a group behind its angle bracket. -/
def readName
    (text : List Char) :
    Option (List Char × List Char) :=
  let name := text.takeWhile (· != '>')
  match name, text.drop name.length with
  | c :: cs, '>' :: left =>
      if isNamePart true c && cs.all (isNamePart false)
      then some (name, left)
      else none
  | _, _ => none

/-
  What stands at the start of a group: a group to be read up
  to its parenthesis, or modes for the rest of this group.
-/
inductive GroupHead where
| group (modes : Modes) (name : Option (List Char))
| modes (modes : Modes)

/- Read the start of a group behind its parenthesis. -/
def readGroupHead
    (modes : Modes)
    (text : List Char) :
    Option (GroupHead × List Char) :=
  match skip modes text with
  | '?' :: '=' :: _ => none
  | '?' :: '!' :: _ => none
  | '?' :: '<' :: '=' :: _ => none
  | '?' :: '<' :: '!' :: _ => none
  | '?' :: 'P' :: '<' :: rest =>
      (readName rest).map fun (name, left) =>
        (.group modes (some name), left)
  | '?' :: '<' :: rest =>
      (readName rest).map fun (name, left) =>
        (.group modes (some name), left)
  | '?' :: rest =>
      match readModes modes [] rest with
      | some (inner, _, ':' :: left) =>
          some (.group inner none, left)
      | some (inner, seen, ')' :: left) =>
          if seen.isEmpty then none
          else some (.modes inner, left)
      | _ => none
  | rest => some (.group modes none, rest)

------------------------------------------------------------
-- Repetitions And Atoms
------------------------------------------------------------

/- Read the bounds of a repetition behind its brace. -/
def readBounds
    (modes : Modes)
    (text : List Char) :
    Option (Nat × Option Nat × List Char) := do
  let (least, rest) ← readCount modes (skip modes text)
  let least ← least
  match rest with
  | '}' :: left => return (least, some least, left)
  | ',' :: more =>
      match skip modes more with
      | '}' :: left => return (least, none, left)
      | more =>
          let (most, left) ← readCount modes more
          let most ← most
          match left with
          | '}' :: left =>
              if least ≤ most then
                return (least, some most, left)
              else none
          | _ => none
  | _ => none

/- Skip a question mark that asks for short matches. -/
def skipLazy : List Char → List Char
| '?' :: rest => rest
| text => text

/- The expression for one character. -/
def Modes.character
    (modes : Modes)
    (c : Char) : Regex :=
  .one (modes.fold (CharacterClass.single c))

/- The expression for an escape. -/
def Atom.expression?
    (modes : Modes) : Atom → Option Regex
| .character c => some (modes.character c)
| .byte c =>
    if modes.unicode || c.toNat ≤ 0x7F then
      some (modes.character c)
    else none
| .members s => some (.one s)
| .anchor a => some (.anchor a)

/- The expression for a dot. -/
def Modes.dot? (modes : Modes) : Option Regex :=
  if !modes.unicode then none
  else some (.one fun c =>
    modes.dotAll ||
      !(c == '\n' || (modes.returns && c == '\r')))

/- The anchor of a caret. -/
def Modes.caret (modes : Modes) : Anchor :=
  if !modes.multiLine then .textStart
  else if modes.returns then .returnLineStart
  else .lineStart

/- The anchor of a dollar sign. -/
def Modes.dollar (modes : Modes) : Anchor :=
  if !modes.multiLine then .textEnd
  else if modes.returns then .returnLineEnd
  else .lineEnd

/- Read one atom that is no group. -/
def readAtom
    (modes : Modes)
    (text : List Char) : Option (Regex × List Char) :=
  match text with
  | [] => none
  | '\\' :: rest =>
      match readEscape modes rest with
      | none => none
      | some (atom, left) =>
          (atom.expression? modes).map fun r => (r, left)
  | '.' :: rest => modes.dot?.map fun r => (r, rest)
  | '^' :: rest => some (.anchor modes.caret, rest)
  | '$' :: rest => some (.anchor modes.dollar, rest)
  | '[' :: rest =>
      (readClass modes (2 * rest.length + 2) rest).map
        fun (s, left) => (.one s, left)
  | c :: rest => some (modes.character c, rest)

------------------------------------------------------------
-- Sequences And Alternatives
------------------------------------------------------------

/-
  The expression for pieces that are held last first.  Modes
  are held as `none` and match nothing by themselves.
-/
def sequenceOf (pieces : List (Option Regex)) : Regex :=
  match pieces.reverse.filterMap id with
  | [] => .empty
  | r :: rs => rs.foldl .seq r

/- Repeat the last piece, which has to be an expression. -/
def repeatLast
    (least : Nat)
    (most : Option Nat)
    (pieces : List (Option Regex)) :
    Option (List (Option Regex)) :=
  match pieces with
  | some r :: earlier =>
      some (some (.repeated r least most) :: earlier)
  | _ => none

mutual

/- Read alternatives up to a parenthesis or the end. -/
def readAlternatives :
    Nat → Reader → Option (Regex × Reader)
| 0, _ => none
| fuel + 1, s =>
    match readSequence fuel [] s with
    | none => none
    | some (r, s) =>
        match s.rest with
        | '|' :: rest =>
            (readAlternatives fuel (s.at rest)).map
              fun (t, s) => (.alt r t, s)
        | _ => some (r, s)

/- Read the pieces of one alternative. -/
def readSequence :
    Nat → List (Option Regex) → Reader →
      Option (Regex × Reader)
| 0, _, _ => none
| fuel + 1, pieces, s =>
    let repeatWith := fun least most rest =>
      match repeatLast least most pieces with
      | none => none
      | some pieces =>
          readSequence fuel pieces (s.at (skipLazy rest))
    match skip s.modes s.rest with
    | [] => some (sequenceOf pieces, s.at [])
    | '|' :: rest =>
        some (sequenceOf pieces, s.at ('|' :: rest))
    | ')' :: rest =>
        some (sequenceOf pieces, s.at (')' :: rest))
    | '?' :: rest => repeatWith 0 (some 1) rest
    | '*' :: rest => repeatWith 0 none rest
    | '+' :: rest => repeatWith 1 none rest
    | '{' :: rest =>
        match readBounds s.modes rest with
        | none => none
        | some (least, most, left) =>
            repeatWith least most (skip s.modes left)
    | '(' :: rest =>
        match readGroupHead s.modes rest with
        | none => none
        | some (.modes modes, left) =>
            readSequence fuel (none :: pieces)
              { s with rest := left, modes := modes }
        | some (.group modes name, left) =>
            let known := name.elim false s.groups.contains
            if known then none else
              match readAlternatives fuel
                  { rest := left, modes := modes,
                    groups := name.toList ++ s.groups } with
              | some (r, t) =>
                  match t.rest with
                  | ')' :: left =>
                      readSequence fuel (some r :: pieces)
                        { rest := left, modes := s.modes,
                          groups := t.groups }
                  | _ => none
              | none => none
    | text =>
        match readAtom s.modes text with
        | none => none
        | some (r, left) =>
            readSequence fuel (some r :: pieces)
              (s.at left)

end

/-
  Read a whole expression.  The flag asks for matches
  without regard to case.
-/
def read?
    (text : List Char)
    (ignoreCase : Bool) : Option Regex :=
  let modes : Modes := { ignoreCase := ignoreCase }
  match readAlternatives (2 * text.length + 2)
      { rest := text, modes := modes } with
  | some (r, s) => if s.rest.isEmpty then some r else none
  | none => none

end Regex

end TreeKeeper
