/-
  The seven kinds of file system objects, their letters and
  their encoding in the upper bits of a mode word.

  Key definitions include:
    * `FileKind`
    * `FileKind.letter`
    * `FileKind.ofLetter?`
    * `FileKind.listingLetter`
    * `FileKind.ofMode`
    * `FileKind.word`
-/

------------------------------------------------------------
-- Kinds And Letters
------------------------------------------------------------

namespace TreeKeeper

/- The kind of a file system object. -/
inductive FileKind where
| block
| character
| directory
| file
| symlink
| fifo
| socket
deriving DecidableEq, Repr

namespace FileKind

instance : Inhabited FileKind := ⟨file⟩

/- Every kind, in alphabetical order of the words. -/
def all : List FileKind :=
  [block, character, directory, file, symlink, fifo,
    socket]

/- The letter of a kind in expressions. -/
def letter : FileKind → Char
| block => 'b'
| character => 'c'
| directory => 'd'
| file => 'f'
| symlink => 'l'
| fifo => 'p'
| socket => 's'

/- The letter of a kind as a text. -/
def letterText (kind : FileKind) : String :=
  String.singleton kind.letter

/- The kind with a given letter. -/
def ofLetter? (c : Char) : Option FileKind :=
  all.find? fun kind => kind.letter == c

/- The letter of a kind in front of a long listing. -/
def listingLetter : FileKind → Char
| file => '-'
| kind => kind.letter

/- Reading a kind's letter gives the kind. -/
theorem ofLetter?_letter (kind : FileKind) :
    ofLetter? kind.letter = some kind := by
  cases kind <;> rfl

------------------------------------------------------------
-- Words And Modes
------------------------------------------------------------

/- The word for a kind in records. -/
def word : FileKind → String
| block => "block"
| character => "char"
| directory => "directory"
| file => "file"
| symlink => "symlink"
| fifo => "fifo"
| socket => "socket"

/- The kind with a given word. -/
def ofWord? (text : String) : Option FileKind :=
  all.find? fun kind => kind.word == text

/- The value of the four type bits of a mode word. -/
def typeBits : FileKind → UInt32
| fifo => 0o010000
| character => 0o020000
| directory => 0o040000
| block => 0o060000
| file => 0o100000
| symlink => 0o120000
| socket => 0o140000

/-
  The kind that the type bits of a mode word encode.  Words
  that encode no kind count as regular files.
-/
def ofMode (mode : UInt32) : FileKind :=
  match all.find? fun kind =>
      kind.typeBits == mode &&& 0o170000 with
  | some kind => kind
  | none => file

end FileKind

end TreeKeeper
