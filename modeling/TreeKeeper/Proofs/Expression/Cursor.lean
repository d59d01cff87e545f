import TreeKeeper.Expression.Rounds

/-
  Reading with a cursor.  Arguments stand in one list, and a
  cursor tells how many of them are taken.  Every argument is
  asked for by its place, every part of the list by its ends,
  and the cursor moves to a place in the list.  Whoever asks
  for what is not there, or moves beyond the end, halts.  No
  counter bounds this reading: it has no result if it never
  ends.

  Key definitions include:
    * `Expression.Position`
    * `Expression.Halt`
    * `Expression.Reading`
    * `Registry.takeExpression`
    * `Expression.Reading.parse`
    * `Expression.Reading.resume`
    * `Expression.Turn`
    * `Expression.Position.turns`
    * `Expression.Turn.round?`
-/

------------------------------------------------------------
-- Positions
------------------------------------------------------------

namespace TreeKeeper

namespace Expression

/-
  How far reading has come: the arguments that are taken, and
  the sort keys so far.
-/
structure Position where
  cursor : Nat := 0
  sorts : List SortKey := []

/-
  Why reading halts.  A fault is found by the reader, or it
  is what a predicate says of its arguments.
-/
inductive Halt where
| fault (fault : ExpressionFault)
| refused (fault : ExpressionFault)
| outside
deriving DecidableEq

/- The fault that is reported. -/
def Halt.fault? : Halt → Option ExpressionFault
| .fault f => some f
| .refused f => some f
| .outside => none

/-
  A reading moves a position and may halt there.  It may also
  go on forever.
-/
abbrev Reading (α : Type) : Type :=
  ExceptT Halt (StateT Position Option) α

namespace Reading

/- What a reading comes to from a position, if it ends. -/
def from?
    {α : Type}
    (reading : Reading α)
    (position : Position) :
    Option (Except Halt α × Position) :=
  reading.run.run position

/- Halt with a fault that the reader has found. -/
def report
    {α : Type}
    (fault : ExpressionFault) : Reading α :=
  throw (.fault fault)

------------------------------------------------------------
-- Arguments
------------------------------------------------------------

section Arguments

variable (args : List String)

/- The argument at a place, which has to be there. -/
def argument (place : Nat) : Reading String :=
  match args[place]? with
  | some arg => return arg
  | none => throw .outside

/- The arguments between two places. -/
def slice (start stop : Nat) : Reading (List String) :=
  if start ≤ stop ∧ stop ≤ args.length then
    return (args.take stop).drop start
  else throw .outside

/- Move the cursor to a place. -/
def moveTo (place : Nat) : Reading Unit :=
  if place ≤ args.length then
    modify fun position => { position with cursor := place }
  else throw .outside

/- Move the cursor over the next argument. -/
def skip : Reading Unit := do
  let position ← get
  moveTo args (position.cursor + 1)

/- The next argument, or an empty text at the end. -/
def word : Reading String := do
  let position ← get
  return args[position.cursor]?.getD ""

/- The argument that was taken last. -/
def lastWord : Reading String := do
  let position ← get
  if position.cursor = 0 then throw .outside
  else argument args (position.cursor - 1)

variable (registry : Registry)

/- What the next argument means. -/
def token? : Reading (Option Token) := do
  let position ← get
  return args[position.cursor]?.map registry.classify

/- Whether the next argument may begin an operand. -/
def atFactor : Reading Bool := do
  match ← token? args registry with
  | some token => return token.beginsFactor
  | none => return false

------------------------------------------------------------
-- Predicates, Sort Directives And Actions
------------------------------------------------------------

/- Take a predicate with its arguments. -/
def predicate (now : Int64) : Reading Filter := do
  let position ← get
  let token ← argument args position.cursor
  match registry.find? token with
  | none => report (.unknownAction token)
  | some p =>
      let start := position.cursor + 1
      let stop := start + p.arity
      if args.length < stop then
        report (.missingArgument token)
      else
        let words ← slice args start stop
        match p.build now words with
        | .error fault => throw (.refused fault)
        | .ok filter =>
            moveTo args stop
            return filter

/- Take a sort directive with its field. -/
def sort (ascending : Bool) : Reading Unit := do
  let position ← get
  let token ← word args
  match args[position.cursor + 1]? with
  | none => report (.missingArgument token)
  | some name =>
      match SortKey.field? name with
      | none =>
          report (.invalidArgument token name .sortField)
      | some field =>
          let key : SortKey := ⟨field, ascending⟩
          set { position with
            sorts := position.sorts ++ [key] }
          moveTo args (position.cursor + 2)

/-
  The number of arguments of a command.  The given ones are
  left from a place on.
-/
def commandEnd? : Nat → List String → Reading (Option Nat)
| _, [] => return none
| place, arg :: rest =>
    if arg = ";" then return some (place + 1)
    else if arg = "+" ∧ 0 < place then do
      let before ← argument args (place - 1)
      if before = "\x7b\x7d" then return some (place + 1)
      else commandEnd? (place + 1) rest
    else commandEnd? (place + 1) rest

/- The number of arguments of an action from a place on. -/
def length?
    (start : Nat) : ActionArity → Reading (Option Nat)
| .fixed count => return some count
| .command => do
    let behind ← slice args start args.length
    commandEnd? behind 0 behind

/- Take an action with its arguments. -/
def action : Reading ActionRequest := do
  let position ← get
  let name ← word args
  let start := position.cursor + 1
  match ActionArity.ofName? name with
  | none => report (.unknownAction name)
  | some arity =>
      match ← length? args start arity with
      | none => report (.missingArgument name)
      | some length =>
          let stop := start + length
          if args.length < stop then
            report (.missingArgument name)
          else
            let words ← slice args start stop
            moveTo args stop
            return ⟨name, words⟩

------------------------------------------------------------
-- Expressions
------------------------------------------------------------

/- Take the parenthesis behind an expression. -/
def closing (inner : Option Filter) : Reading Filter := do
  match ← token? args registry with
  | some .closing =>
      skip args
      match inner with
      | some filter => return filter
      | none => report .emptyParentheses
  | _ => report .unclosed

end Arguments

end Reading

end Expression

namespace Registry

open Expression Expression.Reading

mutual

/- Take terms with disjunctions in between. -/
def takeExpression
    (registry : Registry)
    (args : List String)
    (now : Int64) :
    Expression.Reading (Option Filter) := do
  let first ← registry |>.takeTerm args now []
  registry |>.takeAlternatives args now first.toList
partial_fixpoint

/- Go on with terms, given those that are taken. -/
def takeAlternatives
    (registry : Registry)
    (args : List String)
    (now : Int64)
    (terms : List Filter) :
    Expression.Reading (Option Filter) := do
  match ← token? args registry with
  | some .disjunction =>
      let operator ← word args
      if terms.isEmpty then
        report (.missingOperand operator)
      else
        skip args
        match ← registry |>.takeTerm args now [] with
        | some next =>
            registry |>.takeAlternatives args now
              (terms ++ [next])
        | none => report (.missingOperand operator)
  | _ => return Filter.any terms
partial_fixpoint

/- Go on with operands, given those that are taken. -/
def takeTerm
    (registry : Registry)
    (args : List String)
    (now : Int64)
    (factors : List Filter) :
    Expression.Reading (Option Filter) := do
  match ← token? args registry with
  | none => return Filter.all factors
  | some .closing => return Filter.all factors
  | some .action => return Filter.all factors
  | some .disjunction => return Filter.all factors
  | some .conjunction =>
      let operator ← word args
      skip args
      let isFollowed ←
        Expression.Reading.atFactor args registry
      if !factors.isEmpty && isFollowed then
        registry |>.takeTerm args now factors
      else report (.missingOperand operator)
  | some (.sort ascending) =>
      sort args ascending
      registry |>.takeTerm args now factors
  | _ =>
      let filter ← registry |>.takeFactor args now
      registry |>.takeTerm args now (factors ++ [filter])
partial_fixpoint

/- Take one operand. -/
def takeFactor
    (registry : Registry)
    (args : List String)
    (now : Int64) : Expression.Reading Filter := do
  let token ← word args
  match ← token? args registry with
  | some .negation =>
      skip args
      let isFollowed ←
        Expression.Reading.atFactor args registry
      if isFollowed then
        let filter ← registry |>.takeFactor args now
        return .not filter
      else report (.missingOperand token)
  | some .opening =>
      skip args
      let inner ← registry |>.takeExpression args now
      closing args registry inner
  | some (.predicate _) => predicate args registry now
  | some .place => report (.latePath token)
  | _ => report (.missingOperand token)
partial_fixpoint

end

end Registry

namespace Expression

namespace Reading

section Arguments

variable (args : List String) (registry : Registry)
variable (now : Int64)

/- What is in front of the end or of an action. -/
inductive Parsed where
| complete (filter : Option Filter)
| action (filter : Option Filter) (request : ActionRequest)

/- Take an expression, and the action behind it. -/
def parse : Reading Parsed := do
  let filter ← registry.takeExpression args now
  match ← token? args registry with
  | none => return .complete filter
  | some .action =>
      let request ← action args
      return .action filter request
  | _ => report .unopened

/-
  Take the operator behind an action: true for a disjunction.
-/
def resume : Reading (Option Bool) := do
  match ← token? args registry with
  | some .disjunction =>
      skip args
      return some true
  | some .conjunction =>
      skip args
      return some false
  | _ => return none

end Arguments

end Reading

------------------------------------------------------------
-- Turns
------------------------------------------------------------

/-
  One turn: a reading that halts, or one up to the end, or an
  action with the position behind it, the operator that is
  taken with its word, and the position behind that.
-/
inductive Turn where
| failed (halt : Halt) (last : Position)
| ended (filter : Option Filter) (last : Position)
| acted
    (filter : Option Filter)
    (request : ActionRequest)
    (behind : Position)
    (resumed : Option (Bool × String))
    (next : Position)

/- Where the next turn begins, if there is one. -/
def Turn.next? : Turn → Option Position
| .failed _ _ => none
| .ended _ _ => none
| .acted _ _ _ _ next => some next

section Turns

variable (args : List String) (registry : Registry)
variable (now : Int64)

/-
  Take an expression and resume behind its action.  The word
  of the operator is looked at again, which is what a report
  of its missing operand does.
-/
def Reading.turn : Reading Turn := do
  match ← parse args registry now with
  | .complete filter => return .ended filter (← get)
  | .action filter request =>
      let behind ← get
      match ← resume args registry with
      | none =>
          return .acted filter request behind none (← get)
      | some isDisjunction =>
          let operator ← lastWord args
          return .acted filter request behind
            (some (isDisjunction, operator)) (← get)

/- Take turns until one has no action. -/
def Position.turns
    (position : Position) : Option (List Turn) := do
  match ← (Reading.turn args registry now).from? position with
  | (.error halt, last) => return [.failed halt last]
  | (.ok turn, _) =>
      match turn.next? with
      | none => return [turn]
      | some next =>
          let others ← next |>.turns
          return turn :: others
partial_fixpoint

/- The round of a turn that does not go outside. -/
def Turn.round? : Turn → Option Round
| .failed halt _ => halt.fault?.map .failed
| .ended filter last => some (.ended filter last.sorts)
| .acted filter request behind resumed next =>
    some
      (.acted filter behind.sorts request
        (args.drop behind.cursor) (resumed.map Prod.fst)
        (args.drop next.cursor))

end Turns

end Expression

end TreeKeeper
