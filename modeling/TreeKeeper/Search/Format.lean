import TreeKeeper.Text.Numeral
import TreeKeeper.Search.Listing

/-
  Formats for printing entries: literal text with directives
  such as `%p` and escapes such as `\n`.  A format is checked
  as a whole before anything is printed with it, and its
  literal text is gathered into runs between the directives.

  Key definitions include:
    * `Format.Directive`
    * `Format.Piece`
    * `Format`
    * `Format.ofText`
    * `Format.render?`
-/

------------------------------------------------------------
-- Directives
------------------------------------------------------------

namespace TreeKeeper

namespace Format

/- What a directive prints of an entry. -/
inductive Directive where
| accessTime
| blocks
| changeTime
| depth
| name
| group
| directory
| inode
| kilobytes
| target
| octalMode
| modeText
| links
| path
| relativePath
| size
| modifyTime
| user
| kindLetter
deriving DecidableEq

/- The directive with a given letter. -/
def Directive.ofLetter? (c : Char) : Option Directive :=
  match c with
  | 'a' => some accessTime
  | 'b' => some blocks
  | 'c' => some changeTime
  | 'd' => some depth
  | 'f' => some name
  | 'g' => some group
  | 'G' => some group
  | 'h' => some directory
  | 'i' => some inode
  | 'k' => some kilobytes
  | 'l' => some target
  | 'm' => some octalMode
  | 'M' => some modeText
  | 'n' => some links
  | 'p' => some path
  | 'P' => some relativePath
  | 's' => some size
  | 't' => some modifyTime
  | 'u' => some user
  | 'U' => some user
  | 'y' => some kindLetter
  | _ => none

/- The full text of a time, or its number beyond the calendar. -/
def timeText (time : Int64) : String :=
  match Calendar.momentOf? time.toInt with
  | some t =>
      t.weekdayName ++ " " ++ t.monthName ++ " " ++
        t.dayText ++ " " ++ t.fullClock ++ " " ++
        Calendar.yearText t.year
  | none => toString time.toInt

/-
  What a directive prints of an entry.  There is nothing if
  the blocks of the entry cannot be rounded up.
-/
def Directive.render?
    (entry : Entry) : Directive → Option String
| accessTime => some (timeText entry.stat.atime)
| blocks => some (toString entry.stat.blocks.toNat)
| changeTime => some (timeText entry.stat.ctime)
| depth => some (toString entry.depth)
| name => some entry.name
| group => some (toString entry.stat.gid.toNat)
| directory => some (Entry.directoryOf entry.path)
| inode => some (toString entry.stat.ino.toNat)
| kilobytes =>
    entry.stat.kilobytes?.map fun count =>
      toString count.toNat
| target => some (entry.symlink.getD "")
| octalMode =>
    some (Numeral.octal (entry.stat.mode &&& 0o7777).toNat)
| modeText =>
    some (Listing.modeText entry.stat.kind entry.stat.mode)
| links => some (toString entry.stat.nlink.toNat)
| path => some entry.path
| relativePath => some (Entry.relativeOf entry.path)
| size => some (toString entry.stat.size.toNat)
| modifyTime => some (timeText entry.stat.mtime)
| user => some (toString entry.stat.uid.toNat)
| kindLetter => some entry.stat.kind.letterText

------------------------------------------------------------
-- Reading Formats
------------------------------------------------------------

/- A run of literal text, or a directive. -/
inductive Piece where
| literal (text : String)
| directive (d : Directive)
deriving DecidableEq

/- Why a text is no format. -/
inductive Fault where
| openDirective
| directive (letter : Char)
| openEscape
| escape (letter : Char)
deriving DecidableEq

/- The report of a fault. -/
def Fault.message : Fault → String
| openDirective => "trailing '%' in format"
| directive letter =>
    "unsupported directive '%" ++
      String.singleton letter ++ "'"
| openEscape => "trailing '\\' in format"
| escape letter =>
    "unsupported escape '\\" ++
      String.singleton letter ++ "'"

/- The character that an escaped letter stands for. -/
def escaped? (letter : Char) : Option Char :=
  match letter with
  | 'n' => some '\n'
  | 't' => some '\t'
  | '0' => some '\x00'
  | '\\' => some '\\'
  | _ => none

/- The run of the text that is gathered, if there is any. -/
def gathered (pending : List Char) : List Piece :=
  if pending = [] then []
  else [.literal (String.ofList pending)]

/-
  Read pieces from left to right, behind literal text that is
  pending.  It grows over escapes and doubled percent signs,
  and becomes a piece in front of a directive and at the end.
-/
def readPieces :
    List Char → List Char → Except Fault (List Piece)
| pending, [] => .ok (gathered pending)
| _, ['%'] => .error .openDirective
| pending, '%' :: c :: rest =>
    if c = '%' then readPieces (pending ++ ['%']) rest
    else
      match Directive.ofLetter? c with
      | some d =>
          (readPieces [] rest).map fun pieces =>
            gathered pending ++ .directive d :: pieces
      | none => .error (.directive c)
| _, ['\\'] => .error .openEscape
| pending, '\\' :: c :: rest =>
    match escaped? c with
    | some d => readPieces (pending ++ [d]) rest
    | none => .error (.escape c)
| pending, c :: rest => readPieces (pending ++ [c]) rest

end Format

------------------------------------------------------------
-- Formats
------------------------------------------------------------

/- The pieces of a format, in order. -/
structure Format where
  pieces : List Format.Piece
deriving DecidableEq

namespace Format

/- Read a format. -/
def ofText (text : String) : Except Fault Format :=
  (readPieces [] text.toList).map Format.mk

/- What a piece prints of an entry. -/
def Piece.render? (entry : Entry) : Piece → Option String
| literal text => some text
| directive d => d.render? entry

/- Print an entry.  Nothing is printed if a piece fails. -/
def render?
    (format : Format)
    (entry : Entry) : Option String :=
  (format.pieces.mapM (Piece.render? entry)).map
    (Text.join "")

end Format

end TreeKeeper
