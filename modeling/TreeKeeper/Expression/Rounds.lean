import TreeKeeper.Expression.Reader

/-
  Expressions with actions, read in rounds.  Each round reads
  one expression with its action and the operator behind it,
  and the last one has no action or fails.

  Key definitions include:
    * `Expression.Round`
    * `Expression.rounds`
-/

------------------------------------------------------------
-- Rounds
------------------------------------------------------------

namespace TreeKeeper

namespace Expression

/-
  One round.  The sort keys are those of all rounds so far.
  An action comes with the arguments behind it, the operator
  that follows, where true stands for a disjunction, and the
  arguments behind that.
-/
inductive Round where
| failed (fault : ExpressionFault)
| ended (filter : Option Filter) (sorts : List SortKey)
| acted
    (filter : Option Filter)
    (sorts : List SortKey)
    (action : ActionRequest)
    (rest : List String)
    (resumed : Option Bool)
    (behind : List String)

/- Read rounds, with a limit on their number. -/
def roundsFrom
    (registry : Registry)
    (now : Int64) :
    Nat → List SortKey → List String → List Round
| 0, _, _ => []
| steps + 1, sorts, args =>
    match Segment.read registry now args with
    | .error fault => [.failed fault]
    | .ok segment =>
        let sorts := sorts ++ segment.sorts
        match segment.action with
        | none => [.ended segment.filter sorts]
        | some action =>
            let resumed :=
              Segment.resume? registry segment.rest
            let behind :=
              (resumed.map Prod.snd).getD segment.rest
            .acted segment.filter sorts action segment.rest
                (resumed.map Prod.fst) behind ::
              roundsFrom registry now steps sorts behind

/- Read all rounds of arguments. -/
def rounds
    (registry : Registry)
    (now : Int64)
    (args : List String) : List Round :=
  roundsFrom registry now (args.length + 1) [] args

end Expression

end TreeKeeper
