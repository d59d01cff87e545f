import TreeKeeper.Expression.Token
import TreeKeeper.Search.Format

/-
  Reading search expressions.  A disjunction binds loosest,
  words side by side form a conjunction, and sort directives
  may stand wherever an operand may.  An expression reaches
  to the first action or to the end of the arguments.

  Key definitions include:
    * `Expression.Part`
    * `Expression.readExpression`
    * `Expression.readTerm`
    * `Expression.readFactor`
    * `Segment`
    * `Segment.read`
    * `Segment.resume?`
    * `Expression.compile`
-/

------------------------------------------------------------
-- Sort Directives
------------------------------------------------------------

namespace TreeKeeper

/- The fields that entries may be sorted by. -/
def SortKey.fields : List Field :=
  [.atime, .blocks, .ctime, .ino, .mtime, .name, .path,
    .size, .kind]

/- The sortable field with a given name. -/
def SortKey.field? (name : String) : Option Field :=
  fields.find? fun field => field.title == name

------------------------------------------------------------
-- Parts Of Expressions
------------------------------------------------------------

namespace Expression

/-
  What a part of an expression says, the sort directives in
  it, and the arguments behind it.
-/
structure Part (α : Type) where
  value : α
  sorts : List SortKey
  rest : List String

/- Read the arguments of a predicate. -/
def readPredicate
    (now : Int64)
    (word : String)
    (p : Predicate)
    (args : List String) :
    Except ExpressionFault (Part Filter) :=
  if args.length < p.arity then
    .error (.missingArgument word)
  else
    (p.build now (args.take p.arity)).map fun filter =>
      ⟨filter, [], args.drop p.arity⟩

/- Read the field of a sort directive. -/
def readSort
    (word : String)
    (ascending : Bool) :
    List String → Except ExpressionFault (Part SortKey)
| [] => .error (.missingArgument word)
| name :: rest =>
    match SortKey.field? name with
    | some field => .ok ⟨⟨field, ascending⟩, [], rest⟩
    | none =>
        .error (.invalidArgument word name .sortField)

/- Whether the next argument may begin an operand. -/
def atFactor (registry : Registry) : List String → Bool
| [] => false
| word :: _ => (registry.classify word).beginsFactor

/- Take the parenthesis behind an expression. -/
def close
    (registry : Registry)
    (inner : Part (Option Filter)) :
    Except ExpressionFault (Part Filter) :=
  match inner.rest with
  | [] => .error .unclosed
  | word :: rest =>
      match registry.classify word with
      | .closing =>
          match inner.value with
          | some filter => .ok ⟨filter, inner.sorts, rest⟩
          | none => .error .emptyParentheses
      | _ => .error .unclosed

------------------------------------------------------------
-- Reading
------------------------------------------------------------

/-
  The counters below exceed three times the number of the
  arguments left, and each call that takes no argument
  belongs to a run of at most three, so they do not run out.
-/
mutual

/- Read terms with disjunctions in between. -/
def readExpression
    (registry : Registry)
    (now : Int64) :
    Nat → List String →
      Except ExpressionFault (Part (Option Filter))
| 0, _ => .error .unclosed
| fuel + 1, args => do
    let first ← readTerm registry now fuel false args
    let term := Filter.all first.value
    let others ←
      readAlternatives registry now fuel term.isSome
        first.rest
    return {
      value := Filter.any (term.toList ++ others.value)
      sorts := first.sorts ++ others.sorts
      rest := others.rest }

/-
  Read the terms behind a first one, each with its operator
  in front.  The flag tells whether there is a first one.
-/
def readAlternatives
    (registry : Registry)
    (now : Int64) :
    Nat → Bool → List String →
      Except ExpressionFault (Part (List Filter))
| 0, _, _ => .error .unclosed
| _ + 1, _, [] => .ok ⟨[], [], []⟩
| fuel + 1, started, word :: rest =>
    match registry.classify word with
    | .disjunction =>
        if started then do
          let next ←
            readTerm registry now fuel false rest
          match Filter.all next.value with
          | none => throw (.missingOperand word)
          | some term =>
              let others ←
                readAlternatives registry now fuel true
                  next.rest
              return {
                value := term :: others.value
                sorts := next.sorts ++ others.sorts
                rest := others.rest }
        else .error (.missingOperand word)
    | _ => .ok ⟨[], [], word :: rest⟩

/-
  Read operands side by side.  The flag tells whether there
  is an operand in front, which a conjunction asks for.
-/
def readTerm
    (registry : Registry)
    (now : Int64) :
    Nat → Bool → List String →
      Except ExpressionFault (Part (List Filter))
| 0, _, _ => .error .unclosed
| _ + 1, _, [] => .ok ⟨[], [], []⟩
| fuel + 1, started, word :: rest =>
    match registry.classify word with
    | .closing => .ok ⟨[], [], word :: rest⟩
    | .action => .ok ⟨[], [], word :: rest⟩
    | .disjunction => .ok ⟨[], [], word :: rest⟩
    | .conjunction =>
        if started && atFactor registry rest then
          readTerm registry now fuel started rest
        else .error (.missingOperand word)
    | .sort ascending => do
        let key ← readSort word ascending rest
        let others ←
          readTerm registry now fuel started key.rest
        return {
          others with
          sorts := key.value :: others.sorts }
    | _ => do
        let factor ←
          readFactor registry now fuel word rest
        let others ←
          readTerm registry now fuel true factor.rest
        return {
          value := factor.value :: others.value
          sorts := factor.sorts ++ others.sorts
          rest := others.rest }

/- Read one operand, which begins with a given word. -/
def readFactor
    (registry : Registry)
    (now : Int64) :
    Nat → String → List String →
      Except ExpressionFault (Part Filter)
| 0, _, _ => .error .unclosed
| fuel + 1, word, rest =>
    match registry.classify word with
    | .negation =>
        match rest with
        | [] => .error (.missingOperand word)
        | next :: others =>
            if (registry.classify next).beginsFactor then do
              let factor ←
                readFactor registry now fuel next others
              return {
                factor with
                value := .not factor.value }
            else .error (.missingOperand word)
    | .opening => do
        let inner ← readExpression registry now fuel rest
        close registry inner
    | .predicate p => readPredicate now word p rest
    | .place => .error (.latePath word)
    | _ => .error (.missingOperand word)

end

end Expression

------------------------------------------------------------
-- Segments
------------------------------------------------------------

/- An action that an expression asks for. -/
structure ActionRequest where
  name : String
  args : List String
deriving DecidableEq

/-
  An expression up to its action, or up to the end of the
  arguments if it has none, with what lies behind it.
-/
structure Segment where
  filter : Option Filter
  sorts : List SortKey
  action : Option ActionRequest
  rest : List String

namespace Segment

/- Read an action behind its name. -/
def readAction
    (name : String)
    (args : List String) :
    Except ExpressionFault (ActionRequest × List String) :=
  match ActionArity.ofName? name with
  | none => .error (.unknownAction name)
  | some arity =>
      match arity.count? args with
      | none => .error (.missingArgument name)
      | some n => .ok (⟨name, args.take n⟩, args.drop n)

/- Read one expression and its action. -/
def read
    (registry : Registry)
    (now : Int64)
    (args : List String) :
    Except ExpressionFault Segment := do
  let part ←
    Expression.readExpression registry now
      (3 * args.length + 3) args
  match part.rest with
  | [] =>
      return ⟨part.value, part.sorts, none, []⟩
  | word :: rest =>
      match registry.classify word with
      | .action =>
          let (action, rest) ← readAction word rest
          return ⟨part.value, part.sorts, some action, rest⟩
      | _ => throw .unopened

/-
  The operator between an action and the next expression,
  with the arguments behind it: true for a disjunction.
-/
def resume?
    (registry : Registry) :
    List String → Option (Bool × List String)
| [] => none
| word :: rest =>
    match registry.classify word with
    | .disjunction => some (true, rest)
    | .conjunction => some (false, rest)
    | _ => none

end Segment

------------------------------------------------------------
-- Expressions Without Actions
------------------------------------------------------------

/- Read an expression that must not ask for an action. -/
def Expression.compile
    (registry : Registry)
    (now : Int64)
    (args : List String) :
    Except ExpressionFault
      (Option Filter × List SortKey) := do
  let segment ← Segment.read registry now args
  match segment.action with
  | none => return (segment.filter, segment.sorts)
  | some action => throw (.unexpectedAction action.name)

end TreeKeeper
