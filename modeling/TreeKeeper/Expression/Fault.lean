import TreeKeeper.Window.Basic
import TreeKeeper.Mode.Basic
import TreeKeeper.Search.Format

/-
  What may be wrong with an expression, and how each fault
  is reported.

  Key definitions include:
    * `ArgumentFault`
    * `ArgumentFault.message`
    * `ExpressionFault`
    * `ExpressionFault.message`
-/

------------------------------------------------------------
-- Faults Of Arguments
------------------------------------------------------------

namespace TreeKeeper

/- Why an argument does not fit its predicate or action. -/
inductive ArgumentFault where
| window (fault : Window.Fault)
| mode (fault : Mode.Fault)
| format (fault : Format.Fault)
| kind
| attributeName
| field
| operator
| bool
| mask
| unsigned
| timestamp
| sortField
| tierName
| className
deriving DecidableEq

/- The report of a fault of an argument. -/
def ArgumentFault.message : ArgumentFault → String
| window fault => fault.message
| mode fault => fault.message
| format fault => fault.message
| kind =>
    "expected one of 'b', 'c', 'd', 'f', 'l', 'p', 's'"
| attributeName => "empty attribute name"
| field => "unknown field"
| operator => "unknown operator"
| bool => "expected 'true' or 'false'"
| mask => "expected a bit mask"
| unsigned => "expected an unsigned integer"
| timestamp => "expected a timestamp"
| sortField => "not a sortable field"
| tierName => "empty tier name"
| className => "unknown fileclass"

------------------------------------------------------------
-- Faults Of Expressions
------------------------------------------------------------

/- What may be wrong with an expression. -/
inductive ExpressionFault where
| unclosed
| unopened
| emptyParentheses
| missingOperand (operator : String)
| missingArgument (token : String)
| unknownAction (token : String)
| unexpectedAction (token : String)
| latePath (token : String)
| invalidArgument
    (token : String)
    (argument : String)
    (fault : ArgumentFault)
| invalidPattern (token : String) (pattern : String)
deriving DecidableEq

/- The report of a fault of an expression. -/
def ExpressionFault.message : ExpressionFault → String
| unclosed => "invalid expression: missing ')'"
| unopened =>
    "invalid expression: ')' without a matching '('"
| emptyParentheses =>
    "invalid expression: empty parentheses " ++
      "are not allowed"
| missingOperand operator =>
    "invalid expression: '" ++ operator ++
      "' is missing an operand"
| missingArgument token =>
    "missing argument to '" ++ token ++ "'"
| unknownAction token =>
    "unknown predicate or action '" ++ token ++ "'"
| unexpectedAction token =>
    "action '" ++ token ++
      "' is not allowed in a filter expression"
| latePath token =>
    "paths must precede the expression: '" ++ token ++ "'"
| invalidArgument token argument fault =>
    "invalid argument '" ++ argument ++ "' to '" ++
      token ++ "': " ++ fault.message
| invalidPattern token pattern =>
    "invalid pattern '" ++ pattern ++ "' to '" ++
      token ++ "'"

end TreeKeeper
