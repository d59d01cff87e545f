import TreeKeeper.Pattern.Basic

/-
  Globs, and their translation into the source of a pattern
  for whole texts.  A star stands for any run of characters,
  a question mark for one character, brackets for a class,
  and a backslash takes the meaning from the character
  behind it.

  Key definitions include:
    * `Glob.translate`
    * `Glob.toSource`
-/

------------------------------------------------------------
-- Translation
------------------------------------------------------------

namespace TreeKeeper

namespace Glob

/-
  Characters that keep a backslash in front of them: those
  with a meaning in globs or in expressions.
-/
def keepsBackslash (c : Char) : Bool :=
  "\\*?.|+()\x7b\x7d[]".toList.contains c

/-
  Characters without a meaning in globs that have one in
  expressions.
-/
def needsBackslash (c : Char) : Bool :=
  ".|+()\x7b\x7d".toList.contains c

/-
  Translate the characters of a glob one by one.  A backslash
  at the very end stands for itself.
-/
def translate : List Char → List Char
| [] => []
| ['\\'] => ['\\', '\\']
| '\\' :: c :: rest =>
    if keepsBackslash c then
      '\\' :: c :: translate rest
    else c :: translate rest
| c :: rest =>
    if c = '*' then '.' :: '*' :: translate rest
    else if c = '?' then '.' :: translate rest
    else if needsBackslash c then
      '\\' :: c :: translate rest
    else c :: translate rest

/- The source of the pattern for a glob. -/
def toSource (glob : String) : String :=
  String.ofList
    ('^' :: translate glob.toList ++ Pattern.endGuard)

end Glob

end TreeKeeper
