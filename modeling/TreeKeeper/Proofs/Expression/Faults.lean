import TreeKeeper.Proofs.Filter.Building

/-
  The faults of predicates.  Whatever the arguments are, a
  predicate that refuses them reports that under its own
  name, so none of its faults is taken for one of the words
  around it.

  Key definitions include:
    * `ExpressionFault.predicate?`
    * `Predicate.IsCandid`

  Main declarations:
    * `Predicate.isCandid_of_mem_builtins`
    * `Registry.Standard.isCandid`
-/

------------------------------------------------------------
-- Names In Faults
------------------------------------------------------------

namespace TreeKeeper

/- The word whose arguments a fault is about. -/
def ExpressionFault.predicate? :
    ExpressionFault → Option String
| missingArgument token => some token
| invalidArgument token _ _ => some token
| invalidPattern token _ => some token
| _ => none

namespace Predicate

/- Whether a predicate reports faults under its own name. -/
def IsCandid (p : Predicate) : Prop :=
  ∀ now args fault,
    p.build now args = .error fault →
      fault.predicate? = some p.token

variable {token : String} {fault : ExpressionFault}

theorem isCandid_unary
    (token : String)
    {build :
      Int64 → String → Except ExpressionFault Filter}
    (hBuild :
      ∀ now arg fault,
        build now arg = .error fault →
          fault.predicate? = some token) :
    (unary token build).IsCandid := by
  intro now args fault h
  match args with
  | [arg] => exact hBuild now arg fault h
  | [] =>
      cases h
      rfl
  | _ :: _ :: _ =>
      cases h
      rfl

------------------------------------------------------------
-- Parts Of Predicates
------------------------------------------------------------

theorem predicate?_of_blame
    {ε α : Type}
    {argument : String}
    {cause : ε → ArgumentFault}
    {result : Except ε α}
    (h : blame token argument cause result = .error fault) :
    fault.predicate? = some token := by
  cases result with
  | ok value => exact nomatch h
  | error e =>
      cases h
      rfl

theorem predicate?_of_expect
    {α : Type}
    {argument : String}
    {cause : ArgumentFault}
    {value : Option α}
    (h : expect token argument cause value = .error fault) :
    fault.predicate? = some token := by
  cases value with
  | some value => exact nomatch h
  | none =>
      cases h
      rfl

theorem predicate?_of_patternFilter
    {source argument : String}
    {field : Field}
    {ignoreCase : Bool}
    (h : patternFilter token field source argument
      ignoreCase = .error fault) :
    fault.predicate? = some token := by
  unfold patternFilter at h
  split at h
  · exact nomatch h
  · cases h
    rfl

theorem predicate?_of_operandOfText
    {field : Field}
    {op : Operator}
    {symbol text : String}
    (h : operandOfText token field op symbol text =
      .error fault) :
    fault.predicate? = some token := by
  by_cases hOp : op.IsOrdering
  · rw [operandOfText_ordering _ _ _ _ hOp] at h
    generalize field.holds = kind at h
    cases kind with
    | text => exact nomatch h
    | unsigned =>
        exact predicate?_of_expect (map_eq_error_iff.1 h)
    | timestamp =>
        exact predicate?_of_expect (map_eq_error_iff.1 h)
  · cases op with
    | matching =>
        dsimp only [operandOfText] at h
        split at h
        · exact nomatch h
        · cases h
          rfl
    | present =>
        exact predicate?_of_expect (map_eq_error_iff.1 h)
    | allSet =>
        exact predicate?_of_expect (map_eq_error_iff.1 h)
    | anySet =>
        exact predicate?_of_expect (map_eq_error_iff.1 h)
    | _ => exact absurd trivial hOp

theorem predicate?_of_compareFilter
    {field symbol value : String}
    (h : compareFilter token field symbol value =
      .error fault) :
    fault.predicate? = some token := by
  rcases bind_eq_error_iff.1 h with hField | ⟨f, _, h⟩
  · exact predicate?_of_expect hField
  · rcases bind_eq_error_iff.1 h with hSymbol | ⟨op, _, h⟩
    · exact predicate?_of_expect hSymbol
    · rcases bind_eq_error_iff.1 h with
        hOperand | ⟨operand, _, h⟩
      · exact predicate?_of_operandOfText hOperand
      · exact nomatch h

------------------------------------------------------------
-- All Of Them
------------------------------------------------------------

theorem isCandid_glob
    (token : String)
    (field : Field)
    (ignoreCase : Bool) :
    (glob token field ignoreCase).IsCandid :=
  isCandid_unary token fun _ _ _ h =>
    predicate?_of_patternFilter h

theorem isCandid_regex
    (token : String)
    (ignoreCase : Bool) :
    (regex token ignoreCase).IsCandid :=
  isCandid_unary token fun _ _ _ h =>
    predicate?_of_patternFilter h

theorem isCandid_counter
    (token : String)
    (field : Field) :
    (counter token field).IsCandid :=
  isCandid_unary token fun _ _ _ h => predicate?_of_blame h

theorem isCandid_age
    (token : String)
    (field : Field)
    (unit : TimeUnit) :
    (age token field unit).IsCandid :=
  isCandid_unary token fun _ _ _ h => predicate?_of_blame h

theorem isCandid_size : size.IsCandid :=
  isCandid_unary "-size" fun _ _ _ h => predicate?_of_blame h

theorem isCandid_mode : mode.IsCandid :=
  isCandid_unary "-perm" fun _ _ _ h => predicate?_of_blame h

theorem isCandid_kind : kind.IsCandid := by
  apply isCandid_unary
  intro now arg fault h
  split at h
  · exact nomatch h
  · cases h
    rfl

theorem isCandid_empty : empty.IsCandid :=
  fun _ _ _ h => nomatch h

theorem isCandid_xattr : xattr.IsCandid := by
  apply isCandid_unary
  intro now arg fault h
  split at h
  · cases h
    rfl
  · exact nomatch h

theorem isCandid_compare : compare.IsCandid := by
  intro now args fault h
  match args with
  | [field, symbol, value] =>
      exact predicate?_of_compareFilter h
  | [] =>
      cases h
      rfl
  | [_] =>
      cases h
      rfl
  | [_, _] =>
      cases h
      rfl
  | _ :: _ :: _ :: _ :: _ =>
      cases h
      rfl

theorem isCandid_tier : tier.IsCandid := by
  apply isCandid_unary
  intro now arg fault h
  split at h
  · cases h
    rfl
  · exact nomatch h

theorem isCandid_fileClass
    (classes : List (String × Filter)) :
    (fileClass classes).IsCandid := by
  apply isCandid_unary
  intro now arg fault h
  split at h
  · cases h
  · cases h
    rfl

theorem isCandid_of_mem_builtins
    {p : Predicate}
    (hMember : p ∈ builtins) :
    p.IsCandid := by
  have hAll : ∀ q ∈ builtins, q.IsCandid := by
    simp only [builtins, List.forall_mem_cons]
    exact ⟨
      isCandid_glob _ _ _,
      isCandid_glob _ _ _,
      isCandid_glob _ _ _,
      isCandid_regex _ _,
      isCandid_regex _ _,
      isCandid_glob _ _ _,
      isCandid_glob _ _ _,
      isCandid_kind,
      isCandid_empty,
      isCandid_size,
      isCandid_mode,
      isCandid_xattr,
      isCandid_counter _ _,
      isCandid_counter _ _,
      isCandid_counter _ _,
      isCandid_counter _ _,
      isCandid_counter _ _,
      isCandid_age _ _ _,
      isCandid_age _ _ _,
      isCandid_age _ _ _,
      isCandid_age _ _ _,
      isCandid_age _ _ _,
      isCandid_age _ _ _,
      isCandid_compare,
      List.forall_mem_nil _⟩
  exact hAll p hMember

end Predicate

/- Every predicate of a standard registry is candid. -/
theorem Registry.Standard.isCandid
    {registry : Registry}
    (h : registry.Standard) :
    ∀ p ∈ registry.predicates, p.IsCandid :=
  h.forall_predicates
    (fun _ hMember =>
      Predicate.isCandid_of_mem_builtins hMember)
    Predicate.isCandid_tier
    Predicate.isCandid_fileClass

end TreeKeeper
