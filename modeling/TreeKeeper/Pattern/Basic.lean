import TreeKeeper.Text.Basic
import TreeKeeper.Regex.Reader

/-
  Patterns: the source text of a regular expression, whether
  case matters, and the expression that the source denotes.
  A source may end in the guard that keeps the end of the
  text from matching in front of a final line break; the
  guard stands for the very end of the text.

  Key definitions include:
    * `Pattern.endGuard`
    * `Pattern.compile?`
    * `Pattern`
    * `Pattern.ofSource?`
    * `Pattern.matchesText`
-/

------------------------------------------------------------
-- Sources
------------------------------------------------------------

namespace TreeKeeper

namespace Pattern

/- The guard at the end of translated globs. -/
def endGuard : List Char :=
  ['(', '?', '!', '\\', 'n', ')', '$']

/- Put the anchor for the end of the text for the guard. -/
def expandGuard (source : List Char) : List Char :=
  match Text.stripEnding endGuard source with
  | some stem => stem ++ ['\\', 'z']
  | none => source

/- The expression that a source denotes. -/
def compile?
    (source : String)
    (ignoreCase : Bool) : Option Regex :=
  Regex.read? (expandGuard source.toList) ignoreCase

end Pattern

------------------------------------------------------------
-- Patterns
------------------------------------------------------------

/- A source that denotes an expression. -/
structure Pattern where
  source : String
  ignoreCase : Bool
  expression : Regex
  denoted :
    Pattern.compile? source ignoreCase = some expression

namespace Pattern

/- Source and case decide what a pattern is. -/
theorem eq_of_source
    {p q : Pattern}
    (hSource : p.source = q.source)
    (hCase : p.ignoreCase = q.ignoreCase) :
    p = q := by
  rcases p with ⟨source, ignoreCase, r, hr⟩
  rcases q with ⟨source', ignoreCase', s, hs⟩
  simp only at hSource hCase
  subst hSource
  subst hCase
  have h : r = s :=
    Option.some.inj (hr.symm.trans hs)
  subst h
  rfl

instance : DecidableEq Pattern := fun p q =>
  if h : p.source = q.source ∧
      p.ignoreCase = q.ignoreCase then
    isTrue (eq_of_source h.1 h.2)
  else
    isFalse fun hEq => h ⟨hEq ▸ rfl, hEq ▸ rfl⟩

/- The pattern with a given source. -/
def ofSource?
    (source : String)
    (ignoreCase : Bool) : Option Pattern :=
  match h : compile? source ignoreCase with
  | some r => some ⟨source, ignoreCase, r, h⟩
  | none => none

/- Whether some part of a text matches the pattern. -/
def matchesText (p : Pattern) (text : String) : Bool :=
  p.expression.search text

end Pattern

end TreeKeeper
