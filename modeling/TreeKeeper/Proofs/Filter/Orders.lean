import Mathlib.Logic.ExistsUnique
import TreeKeeper.Proofs.Filter.Comparing
import TreeKeeper.Proofs.Text.ByteOrder

/-
  The orderings of filters as one total order.  A comparison
  compares two numbers by value or two texts by their bytes,
  and then the five orderings say the same of them.  Whatever
  else is compared, or is missing, satisfies none of the five,
  and presence tells what is missing.

  Key definitions include:
    * `Comparand`
    * `Entry.comparand?`
    * `Operand.comparand?`
    * `Comparand.IsBelow`
    * `Operator.Orders`

  Main declarations:
    * `Reading.order?_eq`
    * `Comparand.exists_order?`
    * `Operator.orders_of_admits`
    * `Filter.accepts_orders_or_never`
-/

------------------------------------------------------------
-- Comparands
------------------------------------------------------------

namespace TreeKeeper

/- What is compared: a number or a text. -/
inductive Comparand where
| number (value : Int)
| text (value : String)

/-
  What an entry has in a field, as a number or a text.  Only
  link targets and extended attributes can be missing.
-/
def Entry.comparand?
    (entry : Entry) : Field → Option Comparand
| .name => some (.text entry.name)
| .path => some (.text entry.path)
| .symlink => entry.symlink.map .text
| .kind =>
    some (.text (String.singleton entry.stat.kind.letter))
| .mode => some (.number entry.stat.mode.toNat)
| .size => some (.number entry.stat.size.toNat)
| .blocks => some (.number entry.stat.blocks.toNat)
| .uid => some (.number entry.stat.uid.toNat)
| .gid => some (.number entry.stat.gid.toNat)
| .ino => some (.number entry.stat.ino.toNat)
| .nlink => some (.number entry.stat.nlink.toNat)
| .atime => some (.number entry.stat.atime.toInt)
| .mtime => some (.number entry.stat.mtime.toInt)
| .ctime => some (.number entry.stat.ctime.toInt)
| .xattr key => (entry.xattrs.get? key).map .text

/- What an operand holds, if it can be ordered at all. -/
def Operand.comparand? : Operand → Option Comparand
| unsigned n => some (.number n.toNat)
| integer n => some (.number n.toInt)
| string s => some (.text s)
| pattern _ => none
| bool _ => none

namespace Comparand

/- Whether two comparands are numbers, or both are texts. -/
def IsLike : Comparand → Comparand → Prop
| number _, number _ => True
| text _, text _ => True
| _, _ => False

/- Numbers are ordered by value, and texts by their bytes. -/
def IsBelow : Comparand → Comparand → Prop
| number a, number b => a < b
| text s, text t => Text.bytes s < Text.bytes t
| _, _ => False

/- The order of two comparands, if they have one. -/
def order? : Comparand → Comparand → Option Ordering
| number a, number b => some (compare a b)
| text s, text t => some (compare s t)
| _, _ => none

end Comparand

/- The comparand that a reading holds. -/
def Reading.comparand : Reading → Comparand
| unsigned n => .number n.toNat
| integer n => .number n.toInt
| text s => .text s
| kind k => .text k.letterText

/- An entry has in a field what is read from it. -/
theorem Entry.comparand?_eq
    {entry : Entry}
    {field : Field} :
    entry.comparand? field =
      (entry.read? field).map Reading.comparand := by
  cases field with
  | symlink =>
      unfold comparand? read?
      rw [Option.map_map]
      rfl
  | xattr key =>
      unfold comparand? read?
      rw [Option.map_map]
      rfl
  | _ => rfl

/- A reading is ordered by what it and the operand hold. -/
theorem Reading.order?_eq
    {reading : Reading}
    {operand : Operand} :
    reading.order? operand =
      operand.comparand?.bind reading.comparand.order? := by
  cases reading <;> cases operand <;> rfl

/- What an ordering says of what a field and an operand hold. -/
theorem Filter.accepts_compare_iff_order?
    {entry : Entry}
    {field : Field}
    {op : Operator}
    {operand : Operand}
    (hOp : op.IsOrdering) :
    (compare field op operand).accepts entry = true ↔
      ∃ a b o,
        entry.comparand? field = some a ∧
        operand.comparand? = some b ∧
        a.order? b = some o ∧
        op.admits o = true := by
  rw [accepts_compare_eq hOp, Entry.comparand?_eq]
  cases entry.read? field with
  | none => simp
  | some reading =>
      simp only [Option.any_some, Reading.order?_eq,
        Option.any_eq_true, Option.bind_eq_some_iff,
        Option.map_some, Option.some.injEq]
      constructor
      · rintro ⟨o, ⟨b, hOperand, hOrder⟩, hAdmits⟩
        exact ⟨_, b, o, rfl, hOperand, hOrder, hAdmits⟩
      · rintro ⟨_, b, o, rfl, hOperand, hOrder, hAdmits⟩
        exact ⟨o, ⟨b, hOperand, hOrder⟩, hAdmits⟩

------------------------------------------------------------
-- One Total Order
------------------------------------------------------------

variable {a b : Comparand}

/- Comparands of one kind have one of the three orders. -/
theorem Comparand.exists_order?
    (hLike : a.IsLike b) :
    ∃ o, a.order? b = some o ∧
      (o = .lt ↔ a.IsBelow b) ∧
      (o = .eq ↔ a = b) ∧
      (o = .gt ↔ b.IsBelow a) := by
  cases a with
  | number m =>
      cases b with
      | number n =>
          have hEqual : compare m n = .eq ↔ number m = number n := by
            rw [Std.compare_eq_iff_eq, number.injEq]
          exact ⟨compare m n, rfl, Int.compare_eq_lt, hEqual,
            Int.compare_eq_gt⟩
      | text t => exact hLike.elim
  | text s =>
      cases b with
      | number n => exact hLike.elim
      | text t =>
          have hEqual : compare s t = .eq ↔ text s = text t := by
            rw [Std.compare_eq_iff_eq, text.injEq]
          exact ⟨compare s t, rfl, Text.compare_eq_lt_iff,
            hEqual, Text.compare_eq_gt_iff⟩

/- Other comparands have no order. -/
theorem Comparand.order?_eq_none
    (hLike : ¬ a.IsLike b) :
    a.order? b = none := by
  cases a <;> cases b <;>
    first | rfl | exact absurd trivial hLike

namespace Operator

/- The operators of which just one holds in a total order. -/
def exclusive : List Operator :=
  [less, equal, greater]

/-
  What it means that the five orderings speak of one total
  order of two comparands.
-/
structure Orders
    (holds : Operator → Prop)
    (a b : Comparand) : Prop where
  less : holds .less ↔ a.IsBelow b
  equal : holds .equal ↔ a = b
  greater : holds .greater ↔ b.IsBelow a
  one : ∃! op, op ∈ exclusive ∧ holds op
  lessOrEqual :
    holds .lessOrEqual ↔ holds .less ∨ holds .equal
  greaterOrEqual :
    holds .greaterOrEqual ↔ holds .greater ∨ holds .equal

theorem isOrdering_of_mem_exclusive
    {op : Operator}
    (hOp : op ∈ exclusive) : op.IsOrdering := by
  simp only [exclusive, List.mem_cons, List.not_mem_nil,
    or_false] at hOp
  rcases hOp with rfl | rfl | rfl <;> trivial

/- The exclusive operator that admits an order. -/
def ofOrdering : Ordering → Operator
| .lt => less
| .eq => equal
| .gt => greater

theorem admits_exclusive_iff
    {op : Operator}
    {o : Ordering} :
    op ∈ exclusive ∧ op.admits o = true ↔
      op = ofOrdering o := by
  cases o <;> cases op <;> decide

/- Operators that admit an order speak of one total order. -/
theorem orders_of_admits
    {holds : Operator → Prop}
    {o : Ordering}
    (hAdmits : ∀ op : Operator, op.IsOrdering →
      (holds op ↔ op.admits o = true))
    (hLess : o = .lt ↔ a.IsBelow b)
    (hEqual : o = .eq ↔ a = b)
    (hGreater : o = .gt ↔ b.IsBelow a) :
    Orders holds a b := by
  have hLt := hAdmits .less trivial
  have hEq := hAdmits .equal trivial
  have hGt := hAdmits .greater trivial
  have hLe := hAdmits .lessOrEqual trivial
  have hGe := hAdmits .greaterOrEqual trivial
  refine ⟨?_, ?_, ?_, ?_, ?_, ?_⟩
  · rw [hLt, ← hLess]
    exact beq_iff_eq
  · rw [hEq, ← hEqual]
    exact beq_iff_eq
  · rw [hGt, ← hGreater]
    exact beq_iff_eq
  · have hOnly (op : Operator) :
        op ∈ exclusive ∧ holds op ↔ op = ofOrdering o := by
      rw [← admits_exclusive_iff]
      exact and_congr_right fun hOp =>
        hAdmits op (isOrdering_of_mem_exclusive hOp)
    exact ⟨ofOrdering o, (hOnly _).2 rfl,
      fun op hOp => (hOnly op).1 hOp⟩
  · rw [hLe, hLt, hEq]
    cases o <;> decide
  · rw [hGe, hGt, hEq]
    cases o <;> decide

end Operator

------------------------------------------------------------
-- Filters
------------------------------------------------------------

namespace Filter

/- Presence asks whether there is something to compare. -/
theorem accepts_present_iff
    {entry : Entry}
    {field : Field}
    {expected : Bool} :
    (compare field .present (.bool expected)).accepts entry =
        true ↔
      (entry.comparand? field).isSome = expected := by
  rw [Entry.comparand?_eq, Option.isSome_map]
  exact beq_iff_eq

/-
  The five orderings of any field and any operand.  Either
  the entry has a number or a text in the field and the
  operand is one too, and then exactly one of the three
  strict relations holds, numbers being compared by value and
  texts by bytes, and the other two orderings follow from
  these.  Or none of the five holds.  Whether the entry has
  something in the field is what presence tells.
-/
theorem accepts_orders_or_never
    (entry : Entry)
    (field : Field)
    (operand : Operand) :
    let holds := fun op : Operator =>
      (compare field op operand).accepts entry = true
    ((∃ a b,
        entry.comparand? field = some a ∧
        operand.comparand? = some b ∧
        a.IsLike b ∧
        Operator.Orders holds a b) ∨
      (∀ a b,
          entry.comparand? field = some a →
          operand.comparand? = some b → ¬ a.IsLike b) ∧
        ∀ op : Operator, op.IsOrdering → ¬ holds op) ∧
    ((compare field .present (.bool true)).accepts entry =
        true ↔
      entry.comparand? field ≠ none) ∧
    ((compare field .present (.bool false)).accepts entry =
        true ↔
      entry.comparand? field = none) := by
  intro holds
  refine ⟨?_, ?_, ?_⟩
  · by_cases hBoth : ∃ a b,
        entry.comparand? field = some a ∧
        operand.comparand? = some b ∧ a.IsLike b
    · rcases hBoth with ⟨a, b, hField, hOperand, hLike⟩
      rcases Comparand.exists_order? hLike with
        ⟨o, hOrder, hLess, hEqual, hGreater⟩
      have hAdmits (op : Operator) (hOp : op.IsOrdering) :
          holds op ↔ op.admits o = true := by
        refine (accepts_compare_iff_order? hOp).trans ?_
        simp [hField, hOperand, hOrder]
      exact .inl ⟨a, b, hField, hOperand, hLike,
        Operator.orders_of_admits hAdmits hLess hEqual
          hGreater⟩
    · refine .inr ⟨fun a b hField hOperand hLike =>
        hBoth ⟨a, b, hField, hOperand, hLike⟩, ?_⟩
      intro op hOp hHolds
      rcases (accepts_compare_iff_order? hOp).1 hHolds with
        ⟨a, b, o, hField, hOperand, hOrder, _⟩
      have hLike : ¬ a.IsLike b := fun hLike =>
        hBoth ⟨a, b, hField, hOperand, hLike⟩
      rw [Comparand.order?_eq_none hLike] at hOrder
      exact nomatch hOrder
  · rw [accepts_present_iff, Option.isSome_iff_ne_none]
  · rw [accepts_present_iff, Option.isSome_eq_false_iff,
      Option.isNone_iff_eq_none]

/- The largest size is above minus one, and no link is none. -/
theorem accepts_orders_or_never_at_limits :
    let entry : Entry :=
      .ofPath "/a" { size := 18446744073709551615 }
    (compare .size .greater (.integer (-1))).accepts entry =
      true ∧
    ∀ op : Operator, op.IsOrdering →
      ¬ (compare .symlink op (.string "")).accepts entry =
        true := by
  intro entry
  constructor
  · rcases (accepts_orders_or_never entry .size
        (.integer (-1))).1 with
      ⟨_, _, hField, hOperand, _, hOrders⟩ | ⟨hUnlike, _⟩
    · cases hField
      cases hOperand
      have hBelow :
          (-1 : Int) < (18446744073709551615 : UInt64).toNat := by
        decide
      exact hOrders.greater.2 hBelow
    · exact absurd trivial (hUnlike _ _ rfl rfl)
  · rcases (accepts_orders_or_never entry .symlink
        (.string "")).1 with
      ⟨_, _, hField, _⟩ | ⟨_, hNever⟩
    · exact nomatch hField
    · exact hNever

end Filter

end TreeKeeper
