import TreeKeeper.Text.Blank
import TreeKeeper.Character.Word
import TreeKeeper.Character.Digit
import TreeKeeper.Character.Folding

/-
  Character classes as tests on characters: the classes with
  a name, set operations, and the closure under case.

  Key definitions include:
    * `CharacterClass`
    * `CharacterClass.range`
    * `CharacterClass.ignoringCase`
    * `CharacterClass.named?`
    * `CharacterClass.abbreviated?`
-/

------------------------------------------------------------
-- Set Operations
------------------------------------------------------------

namespace TreeKeeper

/- A set of characters, as a test. -/
abbrev CharacterClass :=
  Char → Bool

namespace CharacterClass

/- No character. -/
def none : CharacterClass :=
  fun _ => false

/- One character. -/
def single (a : Char) : CharacterClass :=
  fun c => c == a

/- The characters from one to another one. -/
def range (a b : Char) : CharacterClass :=
  fun c => a.toNat ≤ c.toNat && c.toNat ≤ b.toNat

/- The characters of one class or of another one. -/
def union (s t : CharacterClass) : CharacterClass :=
  fun c => s c || t c

/- The characters of two classes. -/
def inter (s t : CharacterClass) : CharacterClass :=
  fun c => s c && t c

/- The characters of a first class but not of a second. -/
def minus (s t : CharacterClass) : CharacterClass :=
  fun c => s c && !t c

/- The characters of exactly one of two classes. -/
def either (s t : CharacterClass) : CharacterClass :=
  fun c => s c != t c

/- The characters that a class lacks. -/
def complement (s : CharacterClass) : CharacterClass :=
  fun c => !s c

/- The complement, if it is asked for. -/
def complementIf
    (negated : Bool)
    (s : CharacterClass) : CharacterClass :=
  if negated then s.complement else s

------------------------------------------------------------
-- Case
------------------------------------------------------------

/- The other case of an ASCII letter. -/
def asciiVariants (c : Char) : List Char :=
  [c, c.toLower, c.toUpper]

/-
  The characters that differ from a member at most in case.
  Without Unicode, only the ASCII letters have case.
-/
def ignoringCase
    (unicode : Bool)
    (s : CharacterClass) : CharacterClass :=
  fun c =>
    s c ||
      (if unicode then Character.caseVariants c
        else asciiVariants c).any s

------------------------------------------------------------
-- Named Classes
------------------------------------------------------------

/- The ASCII digits. -/
def asciiDigit : CharacterClass :=
  range '0' '9'

/- The ASCII letters. -/
def asciiLetter : CharacterClass :=
  union (range 'a' 'z') (range 'A' 'Z')

/- The ASCII characters that may be part of a word. -/
def asciiWord : CharacterClass :=
  union (single '_') (union asciiDigit asciiLetter)

/- The ASCII white space. -/
def asciiSpace : CharacterClass :=
  union (single ' ') (range '\t' '\r')

/- The ASCII classes that brackets may name. -/
def named? (name : String) : Option CharacterClass :=
  match name with
  | "alnum" => some (union asciiDigit asciiLetter)
  | "alpha" => some asciiLetter
  | "ascii" => some (range '\x00' '\x7f')
  | "blank" => some (union (single ' ') (single '\t'))
  | "cntrl" =>
      some (union (range '\x00' '\x1f') (single '\x7f'))
  | "digit" => some asciiDigit
  | "graph" => some (range '!' '~')
  | "lower" => some (range 'a' 'z')
  | "print" => some (range ' ' '~')
  | "punct" =>
      some (minus (range '!' '~')
        (union asciiDigit asciiLetter))
  | "space" => some asciiSpace
  | "upper" => some (range 'A' 'Z')
  | "word" => some asciiWord
  | "xdigit" =>
      some (union asciiDigit
        (union (range 'a' 'f') (range 'A' 'F')))
  | _ => Option.none

/-
  The classes that a backslash and a letter name: digits,
  white space and word characters.  A capital letter stands
  for the complement.
-/
def abbreviated?
    (unicode : Bool)
    (letter : Char) : Option CharacterClass :=
  let digit :=
    if unicode then Character.isDecimal else asciiDigit
  let space :=
    if unicode then Text.isBlank else asciiSpace
  let word :=
    if unicode then Character.isWord else asciiWord
  match letter with
  | 'd' => some digit
  | 's' => some space
  | 'w' => some word
  | 'D' => some (complement digit)
  | 'S' => some (complement space)
  | 'W' => some (complement word)
  | _ => Option.none

end CharacterClass

end TreeKeeper
