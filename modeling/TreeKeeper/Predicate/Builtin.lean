import TreeKeeper.Predicate.Basic

/-
  The predicates that every expression may use: globs and
  regular expressions on texts, windows on numbers and
  times, kinds, modes, extended attributes, and the general
  comparison.

  Key definitions include:
    * `Predicate.compare`
    * `Predicate.builtins`
    * `Registry.builtin`
-/

------------------------------------------------------------
-- Texts
------------------------------------------------------------

namespace TreeKeeper

namespace Predicate

/- A predicate that matches a field with a glob. -/
def glob
    (token : String)
    (field : Field)
    (ignoreCase : Bool) : Predicate :=
  unary token fun _ arg =>
    patternFilter token field (Glob.toSource arg) arg
      ignoreCase

/- A predicate that searches a path. -/
def regex
    (token : String)
    (ignoreCase : Bool) : Predicate :=
  unary token fun _ arg =>
    patternFilter token .path arg arg ignoreCase

------------------------------------------------------------
-- Kinds, Modes And Attributes
------------------------------------------------------------

/- The filter for entries of a kind. -/
def kindFilter (kind : FileKind) : Filter :=
  .compare .kind .equal (.string kind.letterText)

/- The kind that a letter on its own stands for. -/
def kindOfText? (text : String) : Option FileKind :=
  match text.toList with
  | [c] => FileKind.ofLetter? c
  | _ => none

/- The predicate for the kind of an entry. -/
def kind : Predicate :=
  unary "-type" fun _ arg =>
    match kindOfText? arg with
    | some k => .ok (kindFilter k)
    | none => .error (.invalidArgument "-type" arg .kind)

/- The predicate for regular files without content. -/
def empty : Predicate where
  token := "-empty"
  arity := 0
  build := fun _ _ =>
    .ok (.and [
      .compare .size .equal (.unsigned 0),
      kindFilter .file])

/- The predicate for permission modes. -/
def mode : Predicate :=
  unary "-perm" fun _ arg =>
    blame "-perm" arg .mode (Mode.filter arg)

/- The predicate for the presence of an attribute. -/
def xattr : Predicate :=
  unary "-xattr" fun _ arg =>
    if arg = "" then
      .error (.invalidArgument "-xattr" arg .attributeName)
    else
      .ok (.compare (.xattr arg) .present (.bool true))

------------------------------------------------------------
-- Numbers And Times
------------------------------------------------------------

/- The predicate for sizes. -/
def size : Predicate :=
  unary "-size" fun _ arg =>
    blame "-size" arg .window (Window.sizeFilter arg)

/- A predicate for a counter. -/
def counter
    (token : String)
    (field : Field) : Predicate :=
  unary token fun _ arg =>
    blame token arg .window (Window.counterFilter field arg)

/- A predicate for a time. -/
def age
    (token : String)
    (field : Field)
    (unit : TimeUnit) : Predicate :=
  unary token fun now arg =>
    blame token arg .window
      (Window.timeFilter field arg unit now)

------------------------------------------------------------
-- The General Comparison
------------------------------------------------------------

/- The value that follows a predicate's argument. -/
def expect
    {α : Type}
    (token argument : String)
    (fault : ArgumentFault)
    (value : Option α) : Except ExpressionFault α :=
  match value with
  | some v => .ok v
  | none => .error (.invalidArgument token argument fault)

/- The truth value with a given name. -/
def boolOfText? (text : String) : Option Bool :=
  if text = "true" then some true
  else if text = "false" then some false
  else none

/-
  The operand that a text stands for, which depends on the
  operator and on what the field holds.
-/
def operandOfText
    (token : String)
    (field : Field)
    (op : Operator)
    (symbol text : String) :
    Except ExpressionFault Operand :=
  match op with
  | .matching =>
      match Pattern.ofSource? text (symbol == "=~i") with
      | some p => .ok (.pattern p)
      | none => .error (.invalidPattern token text)
  | .present =>
      (expect token text .bool (boolOfText? text)).map .bool
  | .allSet =>
      (expect token text .mask
        (Numeral.word64? text)).map .unsigned
  | .anySet =>
      (expect token text .mask
        (Numeral.word64? text)).map .unsigned
  | _ =>
      match field.holds with
      | .text => .ok (.string text)
      | .unsigned =>
          (expect token text .unsigned
            (Numeral.word64? text)).map .unsigned
      | .timestamp =>
          (expect token text .timestamp
            (Numeral.integer64? text)).map .integer

/- The filter of a field, an operator and an operand. -/
def compareFilter
    (token field symbol value : String) :
    Except ExpressionFault Filter := do
  let f ← expect token field .field (Field.ofTitle? field)
  let op ←
    expect token symbol .operator
      (Operator.ofSymbol? symbol)
  let operand ← operandOfText token f op symbol value
  return .compare f op operand

/- The predicate that compares any field. -/
def compare : Predicate where
  token := "-compare"
  arity := 3
  build := fun _ args =>
    match args with
    | [field, symbol, value] =>
        compareFilter "-compare" field symbol value
    | _ => .error (.missingArgument "-compare")

------------------------------------------------------------
-- Tiers And Classes
------------------------------------------------------------

/- The attribute that holds the tier of an entry. -/
def tierAttribute : String :=
  "user.tier"

/- The predicate for the tier of an entry. -/
def tier : Predicate :=
  unary "-tier" fun _ arg =>
    if arg = "" then
      .error (.invalidArgument "-tier" arg .tierName)
    else
      .ok (.compare (.xattr tierAttribute) .equal
        (.string arg))

/- The predicate for named filters. -/
def fileClass
    (classes : List (String × Filter)) : Predicate :=
  unary "-class" fun _ arg =>
    match classes.lookup arg with
    | some filter => .ok filter
    | none => .error (.invalidArgument "-class" arg .className)

------------------------------------------------------------
-- All Of Them
------------------------------------------------------------

/- The predicates that every expression may use. -/
def builtins : List Predicate := [
  glob "-name" .name false,
  glob "-iname" .name true,
  glob "-path" .path false,
  regex "-regex" false,
  regex "-iregex" true,
  glob "-lname" .symlink false,
  glob "-ilname" .symlink true,
  kind,
  empty,
  size,
  mode,
  xattr,
  counter "-uid" .uid,
  counter "-gid" .gid,
  counter "-inum" .ino,
  counter "-links" .nlink,
  counter "-blocks" .blocks,
  age "-amin" .atime .minutes,
  age "-cmin" .ctime .minutes,
  age "-mmin" .mtime .minutes,
  age "-atime" .atime .days,
  age "-ctime" .ctime .days,
  age "-mtime" .mtime .days,
  compare]

end Predicate

/- The registry of the predicates above. -/
def Registry.builtin : Registry :=
  ⟨Predicate.builtins⟩

end TreeKeeper
