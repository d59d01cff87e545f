import TreeKeeper.Filter.Basic

/-
  The shape of filters: a conjunction or disjunction has
  children, and the operand of a comparison fits its
  operator.

  Key definitions include:
    * `Operator.fits`
    * `Filter.Defect`
    * `Filter.Defect.message`
    * `Filter.defect?`
-/

------------------------------------------------------------
-- Operands
------------------------------------------------------------

namespace TreeKeeper

/- Whether an operand makes sense for an operator. -/
def Operator.fits : Operator → Operand → Bool
| .matching, .pattern _ => true
| .matching, _ => false
| .present, .bool _ => true
| .present, _ => false
| .allSet, .unsigned _ => true
| .allSet, _ => false
| .anySet, .unsigned _ => true
| .anySet, _ => false
| _, .pattern _ => false
| _, .bool _ => false
| _, _ => true

------------------------------------------------------------
-- Defects
------------------------------------------------------------

namespace Filter

/- What may be wrong with the shape of a filter. -/
inductive Defect where
| noChildren
| misfit (field : Field) (op : Operator)
deriving DecidableEq

/- The report of a defect. -/
def Defect.message : Defect → String
| noChildren => "logical filter without operands"
| misfit field op =>
    "operand does not fit operator '" ++ op.symbol ++
      "' on field '" ++ field.title ++ "'"

mutual

/- The first defect of a filter, from left to right. -/
def defect? : Filter → Option Defect
| compare field op value =>
    if op.fits value then none
    else some (.misfit field op)
| and [] => some .noChildren
| and (f :: fs) => (defect? f).or (firstDefect? fs)
| or [] => some .noChildren
| or (f :: fs) => (defect? f).or (firstDefect? fs)
| not child => defect? child

/- The first defect of a list of filters. -/
def firstDefect? : List Filter → Option Defect
| [] => none
| f :: fs => (defect? f).or (firstDefect? fs)

end

end Filter

end TreeKeeper
