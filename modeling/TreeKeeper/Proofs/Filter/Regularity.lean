import TreeKeeper.Proofs.Expression.Segments
import TreeKeeper.Proofs.Filter.Building

/-
  What stores may rely on in a filter: the check for defects
  finds none, every conjunction and disjunction in it stands
  above two filters at least, and every comparison by an
  order has an operand of the kind that its field holds.
  Well-formed filters are such filters, and so are what
  joining and negation make of them.

  Key definitions include:
    * `Filter.Contains`
    * `Operand.kind?`
    * `Filter.IsRegular`

  Main declarations:
    * `Filter.WellFormed.isRegular`
    * `Filter.wellFormed_of_both`
    * `Segment.wellFormed_of_read`
-/

------------------------------------------------------------
-- Parts Of Filters
------------------------------------------------------------

namespace TreeKeeper

namespace Filter

/- The parts of a filter, the whole filter among them. -/
inductive Contains : Filter → Filter → Prop
| self (filter : Filter) : Contains filter filter
| and
    {children : List Filter}
    {child part : Filter}
    (hChild : child ∈ children)
    (hPart : Contains child part) :
    Contains (.and children) part
| or
    {children : List Filter}
    {child part : Filter}
    (hChild : child ∈ children)
    (hPart : Contains child part) :
    Contains (.or children) part
| not
    {child part : Filter}
    (hPart : Contains child part) :
    Contains (.not child) part

/- All parts of a well-formed filter are well-formed. -/
theorem WellFormed.of_contains
    {filter part : Filter}
    (hFilter : filter.WellFormed)
    (hPart : filter.Contains part) :
    part.WellFormed := by
  induction hPart with
  | self => exact hFilter
  | and hChild _ ih =>
      cases hFilter with
      | and hLength hChildren =>
          exact ih (hChildren _ hChild)
  | or hChild _ ih =>
      cases hFilter with
      | or hLength hChildren =>
          exact ih (hChildren _ hChild)
  | not _ ih =>
      cases hFilter with
      | not hFilter => exact ih hFilter

end Filter

------------------------------------------------------------
-- Operands
------------------------------------------------------------

/- What a field holds that an operand may be ordered with. -/
def Operand.kind? : Operand → Option FieldKind
| string _ => some .text
| unsigned _ => some .unsigned
| integer _ => some .timestamp
| pattern _ => none
| bool _ => none

namespace Operator.Takes

variable {op : Operator} {kind : FieldKind}
variable {value : Operand}

/- What an operator takes passes the check. -/
theorem fits
    (hTakes : op.Takes kind value) :
    op.fits value := by
  cases hTakes with
  | pattern => rfl
  | presence => rfl
  | allOf => rfl
  | anyOf => rfl
  | text hOp => cases op <;> first | rfl | exact hOp.elim
  | unsigned hOp =>
      cases op <;> first | rfl | exact hOp.elim
  | timestamp hOp =>
      cases op <;> first | rfl | exact hOp.elim

/- An order takes what the field holds. -/
theorem kind?_eq
    (hTakes : op.Takes kind value)
    (hOp : op.IsOrdering) :
    value.kind? = some kind := by
  cases hTakes with
  | pattern => exact hOp.elim
  | presence => exact hOp.elim
  | allOf => exact hOp.elim
  | anyOf => exact hOp.elim
  | text => rfl
  | unsigned => rfl
  | timestamp => rfl

end Operator.Takes

------------------------------------------------------------
-- Regular Filters
------------------------------------------------------------

namespace Filter

/- Whether a filter is what stores may rely on. -/
structure IsRegular (filter : Filter) : Prop where
  valid : filter.defect? = none
  conjunctions :
    ∀ children,
      filter.Contains (.and children) → 2 ≤ children.length
  disjunctions :
    ∀ children,
      filter.Contains (.or children) → 2 ≤ children.length
  operands :
    ∀ field op value,
      filter.Contains (.compare field op value) →
        op.IsOrdering → value.kind? = some field.holds

theorem firstDefect?_eq_none_iff
    {filters : List Filter} :
    firstDefect? filters = none ↔
      ∀ filter ∈ filters, filter.defect? = none := by
  induction filters with
  | nil => simp [firstDefect?]
  | cons filter rest ih => simp [firstDefect?, ih]

theorem defect?_and_eq_none_iff
    {children : List Filter} :
    (Filter.and children).defect? = none ↔
      children ≠ [] ∧
        ∀ child ∈ children, child.defect? = none := by
  cases children with
  | nil => simp [defect?]
  | cons child rest =>
      simp [defect?, firstDefect?_eq_none_iff]

theorem defect?_or_eq_none_iff
    {children : List Filter} :
    (Filter.or children).defect? = none ↔
      children ≠ [] ∧
        ∀ child ∈ children, child.defect? = none := by
  cases children with
  | nil => simp [defect?]
  | cons child rest =>
      simp [defect?, firstDefect?_eq_none_iff]

/- The check finds nothing wrong in a well-formed filter. -/
theorem WellFormed.defect?_eq_none
    {filter : Filter}
    (hFilter : filter.WellFormed) :
    filter.defect? = none := by
  induction hFilter with
  | compare hNamed hTakes => simp [defect?, hTakes.fits]
  | and hLength _ ih =>
      have hSome := List.ne_nil_of_length_pos
        (Nat.lt_of_lt_of_le Nat.zero_lt_two hLength)
      exact defect?_and_eq_none_iff.2 ⟨hSome, ih⟩
  | or hLength _ ih =>
      have hSome := List.ne_nil_of_length_pos
        (Nat.lt_of_lt_of_le Nat.zero_lt_two hLength)
      exact defect?_or_eq_none_iff.2 ⟨hSome, ih⟩
  | not _ ih => simpa [defect?] using ih

theorem WellFormed.isRegular
    {filter : Filter}
    (hFilter : filter.WellFormed) :
    filter.IsRegular where
  valid := hFilter.defect?_eq_none
  conjunctions := by
    intro children hPart
    cases hFilter.of_contains hPart with
    | and hLength => exact hLength
  disjunctions := by
    intro children hPart
    cases hFilter.of_contains hPart with
    | or hLength => exact hLength
  operands := by
    intro field op value hPart hOp
    cases hFilter.of_contains hPart with
    | compare hNamed hTakes => exact hTakes.kind?_eq hOp

------------------------------------------------------------
-- Joining
------------------------------------------------------------

/-
  Two filters that may be missing are joined without a node
  for fewer than two of them.
-/
theorem wellFormed_of_both
    {first second : Option Filter}
    (hFirst : ∀ filter ∈ first, filter.WellFormed)
    (hSecond : ∀ filter ∈ second, filter.WellFormed) :
    ∀ filter ∈ both first second, filter.WellFormed := by
  cases first with
  | none => cases second <;> exact hSecond
  | some f =>
      cases second with
      | none => exact hFirst
      | some g =>
          intro filter hFilter
          cases hFilter
          exact .and_pair (hFirst f rfl) (hSecond g rfl)

end Filter

------------------------------------------------------------
-- Expressions
------------------------------------------------------------

/- What is read in front of an action is well-formed. -/
theorem Segment.wellFormed_of_read
    {registry : Registry}
    {now : Int64}
    {args : List String}
    {segment : Segment}
    (hSound : registry.Sound)
    (hRead : Segment.read registry now args = .ok segment) :
    ∀ filter ∈ segment.filter, filter.WellFormed := by
  have hSentence :
      ∃ words,
        Expression.Sentence registry now words
          segment.filter segment.sorts := by
    rcases cases_of_read hRead with
      ⟨_, hWords⟩ | ⟨front, _, _, _, _, hFront, _⟩
    · exact ⟨args, hWords⟩
    · exact ⟨front, hFront⟩
  rcases hSentence with ⟨words, hWords⟩
  intro filter hFilter
  rw [Option.mem_def.1 hFilter] at hWords
  exact Expression.wellFormed_of_sentence hSound hWords

end TreeKeeper
