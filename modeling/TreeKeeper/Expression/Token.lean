import TreeKeeper.Predicate.Basic

/-
  The words of a search expression, told apart by their text
  alone, and the number of arguments that actions take.

  Key definitions include:
    * `Token`
    * `Registry.classify`
    * `ActionArity`
    * `ActionArity.ofName?`
-/

------------------------------------------------------------
-- Words
------------------------------------------------------------

namespace TreeKeeper

/- What one argument means in an expression. -/
inductive Token where
| place
| conjunction
| disjunction
| negation
| opening
| closing
| predicate (p : Predicate)
| action
| sort (ascending : Bool)

/-
  The meaning of an argument.  Operators come before the
  predicates of a registry, and any other word with a hyphen
  in front asks for an action, known or not.
-/
def Registry.classify
    (registry : Registry)
    (arg : String) : Token :=
  if arg = "(" then .opening
  else if arg = ")" then .closing
  else if arg = "!" ∨ arg = "-not" then .negation
  else if arg = "-a" ∨ arg = "-and" then .conjunction
  else if arg = "-o" ∨ arg = "-or" then .disjunction
  else if arg = "-sort" then .sort true
  else if arg = "-rsort" then .sort false
  else
    match registry.find? arg with
    | some p => .predicate p
    | none =>
        if arg.toList.head? = some '-' then .action
        else .place

/- Whether a word may begin an operand. -/
def Token.beginsFactor : Token → Bool
| place => true
| negation => true
| opening => true
| predicate _ => true
| _ => false

------------------------------------------------------------
-- Actions
------------------------------------------------------------

/-
  The arguments of an action: a fixed number of them, or a
  command up to its end.
-/
inductive ActionArity where
| fixed (count : Nat)
| command
deriving DecidableEq

namespace ActionArity

/- The actions without arguments. -/
def bare : List String :=
  ["-print", "-print0", "-ls", "-count", "-delete",
    "-quit", "-prune"]

/- The actions with one argument. -/
def single : List String :=
  ["-fprint", "-fprint0", "-fls", "-printf"]

/- The actions with two arguments. -/
def double : List String :=
  ["-fprintf"]

/- The actions with a command. -/
def commands : List String :=
  ["-exec", "-execdir", "-ok", "-okdir"]

/- The arguments of the action with a given name. -/
def ofName? (name : String) : Option ActionArity :=
  if bare.contains name then some (fixed 0)
  else if single.contains name then some (fixed 1)
  else if double.contains name then some (fixed 2)
  else if commands.contains name then some command
  else none

/-
  The number of arguments of a command: up to a semicolon,
  or up to a plus sign that follows a pair of braces.
-/
def commandLength? : List String → Option Nat
| [] => none
| arg :: rest =>
    if arg = ";" then some 1
    else if arg = "\x7b\x7d" ∧ rest.head? = some "+" then
      some 2
    else (commandLength? rest).map (· + 1)

/- The number of arguments in front of what follows. -/
def count?
    (arity : ActionArity)
    (args : List String) : Option Nat :=
  match arity with
  | fixed n => if n ≤ args.length then some n else none
  | command => commandLength? args

end ActionArity

end TreeKeeper
