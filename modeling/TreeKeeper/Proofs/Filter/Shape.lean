import TreeKeeper.Filter.Printer
import TreeKeeper.Filter.Validity
import TreeKeeper.Predicate.Builtin
import TreeKeeper.Proofs.Outcome
import TreeKeeper.Proofs.Text.Numeral
import TreeKeeper.Proofs.Text.Pieces

/-
  The shape of the filters that an expression can ask for.
  Each comparison names its field, its operator takes the
  operand for what the field holds, and a conjunction or a
  disjunction stands above two filters at least.  Such a
  comparison is what the general comparison makes of the
  texts of its parts.

  Key definitions include:
    * `Field.IsNamed`
    * `Operator.IsOrdering`
    * `Operator.Takes`
    * `Filter.WellFormed`

  Main declarations:
    * `Field.ofTitle?_title`
    * `Predicate.compareFilter_text`
    * `Predicate.wellFormed_of_compareFilter`
-/

------------------------------------------------------------
-- Fields
------------------------------------------------------------

namespace TreeKeeper

namespace Field

/- Every field but an attribute with an empty key. -/
def IsNamed : Field → Prop
| xattr key => key ≠ ""
| _ => True

/- The names of attributes are no names of other fields. -/
theorem title_ne_xattr
    (key : String)
    {field : Field}
    (hField : field ∈ plain) :
    field.title ≠ "xattr:" ++ key := by
  have hColon :
      ∀ f ∈ plain, ':' ∉ f.title.toList := by
    decide
  intro hTitle
  apply hColon field hField
  rw [hTitle, String.toList_append]
  exact List.mem_append_left _ (by decide)

theorem find?_xattr (key : String) :
    (plain.find? fun field =>
      field.title == "xattr:" ++ key) = none := by
  apply List.find?_eq_none.2
  intro field hField hTitle
  exact title_ne_xattr key hField (eq_of_beq hTitle)

/- The name of a field leads back to the field. -/
theorem ofTitle?_title
    {field : Field}
    (hNamed : field.IsNamed) :
    ofTitle? field.title = some field := by
  cases field with
  | xattr key =>
      have hStrip :
          Text.stripBeginning "xattr:".toList
              ("xattr:" ++ key).toList =
            some key.toList := by
        rw [String.toList_append]
        exact Text.stripBeginning_append _ _
      rw [title, ofTitle?, find?_xattr, hStrip]
      cases hKey : key.toList with
      | nil =>
          have hEmpty : key = "" :=
            String.toList_eq_nil_iff.1 hKey
          exact absurd hEmpty hNamed
      | cons c rest =>
          simp only [← hKey, String.ofList_toList]
  | _ => decide

/- Whatever has a name is found under a name. -/
theorem isNamed_of_ofTitle?
    {text : String}
    {field : Field}
    (h : ofTitle? text = some field) :
    field.IsNamed := by
  unfold ofTitle? at h
  split at h
  · rename_i plainField hFound
    cases h
    have hPlain : ∀ f ∈ plain, f.IsNamed := by
      simp [plain, IsNamed]
    exact hPlain _ (List.mem_of_find?_eq_some hFound)
  · split at h
    · cases h
      simp [IsNamed]
    · exact nomatch h

end Field

------------------------------------------------------------
-- Operators
------------------------------------------------------------

namespace Operator

/- The operators that compare by an order. -/
def IsOrdering : Operator → Prop
| equal => True
| less => True
| lessOrEqual => True
| greater => True
| greaterOrEqual => True
| _ => False

/-
  The operands of an operator on a field.  An order takes
  the kind of operand that the field holds, and any other
  operator takes the same operands on every field.
-/
inductive Takes : Operator → FieldKind → Operand → Prop
| pattern
    {kind : FieldKind}
    (p : Pattern) :
    Takes .matching kind (.pattern p)
| presence
    {kind : FieldKind}
    (expected : Bool) :
    Takes .present kind (.bool expected)
| allOf
    {kind : FieldKind}
    (mask : UInt64) :
    Takes .allSet kind (.unsigned mask)
| anyOf
    {kind : FieldKind}
    (mask : UInt64) :
    Takes .anySet kind (.unsigned mask)
| text
    {op : Operator}
    (hOp : op.IsOrdering)
    (s : String) :
    Takes op .text (.string s)
| unsigned
    {op : Operator}
    (hOp : op.IsOrdering)
    (n : UInt64) :
    Takes op .unsigned (.unsigned n)
| timestamp
    {op : Operator}
    (hOp : op.IsOrdering)
    (i : Int64) :
    Takes op .timestamp (.integer i)

/- The symbol in front of an operand names the operator. -/
theorem ofSymbol?_operatorArg
    {op : Operator}
    {kind : FieldKind}
    {value : Operand}
    (hTakes : op.Takes kind value) :
    ofSymbol? (Filter.operatorArg op value) = some op := by
  have hSymbol : ofSymbol? op.symbol = some op := by
    cases op <;> decide
  cases hTakes with
  | pattern p =>
      cases hCase : p.ignoreCase with
      | true => simp [Filter.operatorArg, hCase, ofSymbol?]
      | false => simpa [Filter.operatorArg, hCase]
  | _ => exact hSymbol

end Operator

------------------------------------------------------------
-- Comparisons
------------------------------------------------------------

theorem Pattern.ofSource?_source (p : Pattern) :
    ofSource? p.source p.ignoreCase = some p := by
  rcases p with ⟨source, ignoreCase, r, hDenoted⟩
  unfold ofSource?
  split
  · rename_i s hCompiled
    exact congrArg some (eq_of_source rfl rfl)
  · rename_i hNone
    exact nomatch hDenoted.symm.trans hNone

namespace Predicate

/- An expected value is there, or there is a fault. -/
theorem expect_eq_ok_iff
    {α : Type}
    {token argument : String}
    {fault : ArgumentFault}
    {value : Option α}
    {a : α} :
    expect token argument fault value = .ok a ↔
      value = some a := by
  cases value <;> simp [expect]

/- An order reads its operand by what the field holds. -/
theorem operandOfText_ordering
    (token : String)
    (field : Field)
    {op : Operator}
    (symbol text : String)
    (hOp : op.IsOrdering) :
    operandOfText token field op symbol text =
      match field.holds with
      | .text => .ok (.string text)
      | .unsigned =>
          (expect token text .unsigned
            (Numeral.word64? text)).map .unsigned
      | .timestamp =>
          (expect token text .timestamp
            (Numeral.integer64? text)).map .integer := by
  cases op with
  | matching => exact hOp.elim
  | present => exact hOp.elim
  | allSet => exact hOp.elim
  | anySet => exact hOp.elim
  | _ => rfl

/- The text of an operand leads back to the operand. -/
theorem operandOfText_text
    (token : String)
    {field : Field}
    {op : Operator}
    {value : Operand}
    (hTakes : op.Takes field.holds value) :
    operandOfText token field op
        (Filter.operatorArg op value) value.text =
      .ok value := by
  generalize hKind : field.holds = kind at hTakes
  cases hTakes with
  | pattern p =>
      have hSymbol :
          (Filter.operatorArg .matching (.pattern p) ==
            "=~i") = p.ignoreCase := by
        cases hCase : p.ignoreCase <;>
          simp [Filter.operatorArg, hCase, Operator.symbol]
      simp only [operandOfText, hSymbol, Operand.text,
        Pattern.ofSource?_source]
  | presence expected =>
      cases expected <;> rfl
  | allOf mask =>
      simp only [operandOfText, Operand.text,
        Numeral.word64?_toString]
      rfl
  | anyOf mask =>
      simp only [operandOfText, Operand.text,
        Numeral.word64?_toString]
      rfl
  | text hOp s =>
      rw [operandOfText_ordering _ _ _ _ hOp, hKind]
      rfl
  | unsigned hOp n =>
      rw [operandOfText_ordering _ _ _ _ hOp, hKind]
      simp only [Operand.text, Numeral.word64?_toString]
      rfl
  | timestamp hOp i =>
      rw [operandOfText_ordering _ _ _ _ hOp, hKind]
      simp only [Operand.text, Numeral.integer64?_toString]
      rfl

/- Whatever operand is read, the operator takes it. -/
theorem takes_of_operandOfText
    {token symbol text : String}
    {field : Field}
    {op : Operator}
    {value : Operand}
    (h : operandOfText token field op symbol text =
      .ok value) :
    op.Takes field.holds value := by
  by_cases hOp : op.IsOrdering
  · rw [operandOfText_ordering _ _ _ _ hOp] at h
    generalize field.holds = kind at h ⊢
    cases kind with
    | text =>
        cases h
        exact .text hOp _
    | unsigned =>
        rcases map_eq_ok_iff.1 h with ⟨n, _, rfl⟩
        exact .unsigned hOp n
    | timestamp =>
        rcases map_eq_ok_iff.1 h with ⟨i, _, rfl⟩
        exact .timestamp hOp i
  · cases op with
    | matching =>
        cases hPattern :
            Pattern.ofSource? text (symbol == "=~i") with
        | some p =>
            simp only [operandOfText, hPattern] at h
            cases h
            exact .pattern p
        | none =>
            simp [operandOfText, hPattern] at h
    | present =>
        rcases map_eq_ok_iff.1 h with ⟨expected, _, rfl⟩
        exact .presence expected
    | allSet =>
        rcases map_eq_ok_iff.1 h with ⟨mask, _, rfl⟩
        exact .allOf mask
    | anySet =>
        rcases map_eq_ok_iff.1 h with ⟨mask, _, rfl⟩
        exact .anyOf mask
    | _ => exact absurd trivial hOp

end Predicate

------------------------------------------------------------
-- Filters
------------------------------------------------------------

/-
  Filters whose comparisons make sense and whose other nodes
  stand above as many filters as they need.
-/
inductive Filter.WellFormed : Filter → Prop
| compare
    {field : Field}
    {op : Operator}
    {value : Operand}
    (hNamed : field.IsNamed)
    (hTakes : op.Takes field.holds value) :
    WellFormed (.compare field op value)
| and
    {children : List Filter}
    (hLength : 2 ≤ children.length)
    (hChildren : ∀ child ∈ children, WellFormed child) :
    WellFormed (.and children)
| or
    {children : List Filter}
    (hLength : 2 ≤ children.length)
    (hChildren : ∀ child ∈ children, WellFormed child) :
    WellFormed (.or children)
| not
    {child : Filter}
    (hChild : WellFormed child) :
    WellFormed (.not child)

namespace Predicate

/-
  The general comparison makes a comparison again from the
  texts of its parts.
-/
theorem compareFilter_text
    (token : String)
    {field : Field}
    {op : Operator}
    {value : Operand}
    (hNamed : field.IsNamed)
    (hTakes : op.Takes field.holds value) :
    compareFilter token field.title
        (Filter.operatorArg op value) value.text =
      .ok (.compare field op value) := by
  have hField :
      expect token field.title .field
          (Field.ofTitle? field.title) =
        .ok field :=
    expect_eq_ok_iff.2 (Field.ofTitle?_title hNamed)
  have hSymbol :
      expect token (Filter.operatorArg op value) .operator
          (Operator.ofSymbol?
            (Filter.operatorArg op value)) =
        .ok op :=
    expect_eq_ok_iff.2
      (Operator.ofSymbol?_operatorArg hTakes)
  unfold compareFilter
  rw [hField, bind_ok, hSymbol, bind_ok,
    operandOfText_text token hTakes, bind_ok]
  rfl

/- The general comparison makes no other filters. -/
theorem wellFormed_of_compareFilter
    {token field symbol value : String}
    {filter : Filter}
    (h : compareFilter token field symbol value =
      .ok filter) :
    filter.WellFormed := by
  rcases bind_eq_ok_iff.1 h with ⟨f, hField, h⟩
  rcases bind_eq_ok_iff.1 h with ⟨op, _, h⟩
  rcases bind_eq_ok_iff.1 h with ⟨operand, hOperand, h⟩
  cases h
  exact .compare
    (Field.isNamed_of_ofTitle? (expect_eq_ok_iff.1 hField))
    (takes_of_operandOfText hOperand)

end Predicate

end TreeKeeper
