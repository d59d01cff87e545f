import TreeKeeper.Expression.Fault
import TreeKeeper.Pattern.Glob

/-
  Predicates: the words of an expression that turn arguments
  into filters, and the registries that hold them.  A later
  predicate hides earlier ones with the same word.

  Key definitions include:
    * `Predicate`
    * `Predicate.unary`
    * `Registry`
    * `Registry.find?`
    * `Registry.register`
-/

------------------------------------------------------------
-- Predicates
------------------------------------------------------------

namespace TreeKeeper

/-
  A word with a number of arguments and the filter that they
  stand for at a reference time.
-/
structure Predicate where
  token : String
  arity : Nat
  build :
    Int64 → List String → Except ExpressionFault Filter

namespace Predicate

/- A predicate with one argument. -/
def unary
    (token : String)
    (build :
      Int64 → String → Except ExpressionFault Filter) :
    Predicate where
  token := token
  arity := 1
  build := fun now args =>
    match args with
    | [arg] => build now arg
    | _ => .error (.missingArgument token)

/- Report why an argument does not fit a predicate. -/
def blame
    {ε α : Type}
    (token argument : String)
    (fault : ε → ArgumentFault)
    (result : Except ε α) : Except ExpressionFault α :=
  result.mapError fun e =>
    .invalidArgument token argument (fault e)

/-
  The comparison of a field with the pattern of a source, or
  a report of the argument that the source was made from.
-/
def patternFilter
    (token : String)
    (field : Field)
    (source argument : String)
    (ignoreCase : Bool) : Except ExpressionFault Filter :=
  match Pattern.ofSource? source ignoreCase with
  | some p => .ok (.compare field .matching (.pattern p))
  | none => .error (.invalidPattern token argument)

end Predicate

------------------------------------------------------------
-- Registries
------------------------------------------------------------

/- Predicates, the latest one first. -/
structure Registry where
  predicates : List Predicate

namespace Registry

/- The predicate with a given word. -/
def find?
    (registry : Registry)
    (token : String) : Option Predicate :=
  registry.predicates.find? fun p => p.token == token

/- Whether a registry knows a word. -/
def contains
    (registry : Registry)
    (token : String) : Bool :=
  (registry.find? token).isSome

/- Add a predicate. -/
def register
    (registry : Registry)
    (p : Predicate) : Registry :=
  ⟨p :: registry.predicates⟩

/- Add predicates, one after the other. -/
def registerAll
    (registry : Registry)
    (ps : List Predicate) : Registry :=
  ps.foldl register registry

end Registry

end TreeKeeper
