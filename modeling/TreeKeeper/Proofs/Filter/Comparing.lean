import TreeKeeper.Filter.Meaning
import TreeKeeper.Proofs.Filter.Shape

/-
  Comparisons of numbers.  Whatever words a field and an
  operand hold, the comparison is one of their values as
  integers.

  Key definitions include:
    * `Operator.Relates`

  Main declarations:
    * `Operator.admits_compare_iff`
    * `Filter.accepts_compare_eq`
    * `Filter.accepts_compare_iff`
    * `Filter.accepts_pair_iff`
-/

------------------------------------------------------------
-- Orders Of Numbers
------------------------------------------------------------

namespace TreeKeeper

/- What an ordering says of two numbers. -/
def Operator.Relates : Operator → Int → Int → Prop
| .equal, a, b => a = b
| .less, a, b => a < b
| .lessOrEqual, a, b => a ≤ b
| .greater, a, b => b < a
| .greaterOrEqual, a, b => b ≤ a
| _, _, _ => False

/- An operator admits the order of numbers that it relates. -/
theorem Operator.admits_compare_iff
    {op : Operator}
    {a b : Int} :
    op.admits (compare a b) = true ↔ op.Relates a b := by
  cases op with
  | equal => simp [admits, Relates]
  | less => simp [admits, Relates, Int.compare_eq_lt]
  | lessOrEqual => simp [admits, Relates, Int.compare_eq_gt]
  | greater => simp [admits, Relates, Int.compare_eq_gt]
  | greaterOrEqual =>
      simp [admits, Relates, Int.compare_eq_lt]
  | _ => exact ⟨nofun, nofun⟩

------------------------------------------------------------
-- Comparisons With Numbers
------------------------------------------------------------

namespace Filter

variable {entry : Entry}

/- An ordering asks for the order of what the entry has. -/
theorem accepts_compare_eq
    {field : Field}
    {op : Operator}
    {operand : Operand}
    (hOp : op.IsOrdering) :
    (compare field op operand).accepts entry =
      (entry.read? field).any fun reading =>
        (reading.order? operand).any op.admits := by
  rw [accepts]
  unfold Entry.satisfies
  cases op with
  | matching => exact hOp.elim
  | present => exact hOp.elim
  | allSet => exact hOp.elim
  | anySet => exact hOp.elim
  | _ => rfl

/- A number is compared by its value. -/
theorem accepts_compare_iff
    {field : Field}
    {op : Operator}
    {operand : Operand}
    {reading : Reading}
    {a b : Int}
    (hOp : op.IsOrdering)
    (hRead : entry.read? field = some reading)
    (hReading : reading.number? = some a)
    (hOperand : operand.number? = some b) :
    (compare field op operand).accepts entry = true ↔
      op.Relates a b := by
  have hOrder :
      reading.order? operand = some (Ord.compare a b) := by
    unfold Reading.order?
    rw [hReading, hOperand]
  rw [accepts_compare_eq hOp, hRead, Option.any_some, hOrder,
    Option.any_some]
  exact Operator.admits_compare_iff

/- A conjunction of two filters accepts what both do. -/
theorem accepts_pair_iff
    {first second : Filter} :
    (and [first, second]).accepts entry = true ↔
      first.accepts entry = true ∧
        second.accepts entry = true := by
  simp [accepts, acceptsAll]

end Filter

end TreeKeeper
