import TreeKeeper.Text.Basic

/-
  Paths as texts and as lists of components.  Repeated
  slashes, slashes at the end and inner dots make no
  component, so two spellings of one path have the same
  components.

  Key definitions include:
    * `Path.Component`
    * `Path.components`
    * `Path.isAbsolute`
    * `Path.resolveDots`
    * `Path.normalize`
    * `Path.join`
    * `Path.strip?`
    * `Path.resolveUnder`
    * `Path.relativeTo`
-/

------------------------------------------------------------
-- Components
------------------------------------------------------------

namespace TreeKeeper

namespace Path

/- One component of a path. -/
inductive Component where
| root
| current
| parent
| name (text : List Char)
deriving DecidableEq

/- Whether a piece between slashes makes no component. -/
def isTrivial (piece : List Char) : Bool :=
  piece == [] || piece == ['.']

/- The component of a piece between slashes. -/
def Component.ofPiece (piece : List Char) : Component :=
  if piece = ['.', '.'] then .parent else .name piece

/-
  Split off the leading slash, or a leading dot that stands
  alone, as the first component.
-/
def splitLead :
    List Char → Option Component × List Char
| '/' :: rest => (some .root, rest)
| ['.'] => (some .current, [])
| '.' :: '/' :: rest => (some .current, '/' :: rest)
| text => (none, text)

/- The components among the pieces between slashes. -/
def ofPieces
    (pieces : List (List Char)) : List Component :=
  (pieces.filter fun p => !isTrivial p).map
    Component.ofPiece

/- The components of a path. -/
def componentsOf (text : List Char) : List Component :=
  let (lead, body) := splitLead text
  lead.toList ++ ofPieces (Text.splitOn '/' body)

/- The components of a path. -/
def components (path : String) : List Component :=
  componentsOf path.toList

/- Whether a path starts at the file system root. -/
def isAbsolute (path : String) : Bool :=
  path.toList.head? == some '/'

------------------------------------------------------------
-- Normal Forms
------------------------------------------------------------

/-
  Follow one component from a location, which is the list of
  names below the file system root, innermost first.
-/
def follow :
    List (List Char) → Component → List (List Char)
| _, .root => []
| location, .current => location
| location, .parent => location.tail
| location, .name text => text :: location

/- Follow components from the file system root. -/
def resolveDots
    (cs : List Component) : List (List Char) :=
  (cs.foldl follow []).reverse

/- The path with a slash in front of each name. -/
def ofNames (names : List (List Char)) : String :=
  String.ofList
    ('/' :: Text.joinWith ['/'] names)

/- The names along an absolute path without dots. -/
def names (path : String) : List (List Char) :=
  resolveDots (components path)

/-
  Drop the dots of an absolute path and let each double dot
  cancel the name before it.  Other paths stay unchanged.
-/
def normalize (path : String) : String :=
  if isAbsolute path then ofNames (names path)
  else path

/-
  A path seen from a directory.  An absolute path does not
  depend on the directory.
-/
def join (directory path : String) : String :=
  if isAbsolute path then path
  else if directory = "" ∨
      directory.toList.getLast? = some '/' then
    directory ++ path
  else directory ++ "/" ++ path

------------------------------------------------------------
-- Below A Root
------------------------------------------------------------

/- Whether one path lies at or below another one. -/
def isAtOrBelow (path root : String) : Bool :=
  (components root).isPrefixOf (components path)

/- Drop the pieces that the given components come from. -/
def dropComponents :
    List Component → List (List Char) →
      Option (List (List Char))
| [], pieces => some pieces
| _ :: _, [] => none
| c :: cs, piece :: pieces =>
    if isTrivial piece then
      dropComponents (c :: cs) pieces
    else if Component.ofPiece piece = c then
      dropComponents cs pieces
    else none

/- Drop pieces without components at the end. -/
def trimPieces
    (pieces : List (List Char)) : List (List Char) :=
  (pieces.reverse.dropWhile isTrivial).reverse

/- Drop pieces without components at both ends. -/
def corePieces
    (pieces : List (List Char)) : List (List Char) :=
  trimPieces (pieces.dropWhile isTrivial)

/- The text of a first component. -/
def leadText : Option Component → List Char
| some .root => ['/']
| some .current => ['.']
| _ => []

/-
  The rest of a path behind the components of another one,
  spelled as it stands there.
-/
def strip? (path root : String) : Option (List Char) :=
  let (lead, body) := splitLead path.toList
  let pieces := Text.splitOn '/' body
  match lead, components root with
  | lead, [] =>
      some (leadText lead ++
        Text.joinWith ['/'] (trimPieces pieces))
  | some l, c :: cs =>
      if l = c then
        (dropComponents cs pieces).map fun rest =>
          Text.joinWith ['/'] (corePieces rest)
      else none
  | none, c :: cs =>
      (dropComponents (c :: cs) pieces).map fun rest =>
        Text.joinWith ['/'] (corePieces rest)

/-
  The place of an entry path below a root, unless double
  dots lead out of the root.
-/
def resolveUnder
    (root path : String) : Option String :=
  let relative :=
    String.ofList (path.toList.dropWhile (· == '/'))
  let resolved := normalize (join root relative)
  if isAtOrBelow resolved (normalize root) then
    some resolved
  else none

/- The entry path of a place at or below a root. -/
def relativeTo
    (root path : String) : Option String :=
  (strip? path root).map fun rest =>
    String.ofList ('/' :: rest)

end Path

end TreeKeeper
