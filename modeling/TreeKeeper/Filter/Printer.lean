import TreeKeeper.Filter.Basic

/-
  Filters written as the arguments of a query.  Comparisons
  are written in the one form that can express them all, and
  parentheses stand around conjunctions and disjunctions
  below another node.

  Key definitions include:
    * `Filter.toArgs`
    * `Filter.display`
-/

------------------------------------------------------------
-- Arguments
------------------------------------------------------------

namespace TreeKeeper

namespace Filter

/- The symbol of an operator with a given operand. -/
def operatorArg (op : Operator) : Operand → String
| .pattern p => if p.ignoreCase then "=~i" else op.symbol
| _ => op.symbol

mutual

/- The arguments of a query that describe a filter. -/
def toArgs : Filter → List String
| compare field op value =>
    ["-compare", field.title, operatorArg op value,
      value.text]
| and children => joinedArgs "-and" children
| or children => joinedArgs "-or" children
| not child => "!" :: groupedArgs child

/- The arguments of a filter below another node. -/
def groupedArgs : Filter → List String
| compare field op value =>
    ["-compare", field.title, operatorArg op value,
      value.text]
| and children =>
    "(" :: joinedArgs "-and" children ++ [")"]
| or children =>
    "(" :: joinedArgs "-or" children ++ [")"]
| not child => "!" :: groupedArgs child

/- The arguments of filters with an operator in between. -/
def joinedArgs
    (operator : String) :
    List Filter → List String
| [] => []
| f :: fs => groupedArgs f ++ furtherArgs operator fs

/- The arguments of filters, each behind an operator. -/
def furtherArgs
    (operator : String) :
    List Filter → List String
| [] => []
| f :: fs =>
    operator :: groupedArgs f ++ furtherArgs operator fs

end

/- The arguments of a filter on one line. -/
def display (filter : Filter) : String :=
  Text.join " " filter.toArgs

end Filter

end TreeKeeper
