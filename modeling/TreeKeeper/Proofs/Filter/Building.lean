import TreeKeeper.Proofs.Expression.Reading
import TreeKeeper.Proofs.Filter.Shape

/-
  Every predicate of a standard registry builds well-formed
  filters only, whatever its arguments and the reference
  time are, and so does every expression over such a
  registry.  The filters behind the names of classes are
  themselves read with a standard registry.

  Key definitions include:
    * `Predicate.Sound`
    * `Registry.Sound`
    * `Registry.Standard`
    * `Registry.Compiled`

  Main declarations:
    * `Predicate.sound_of_mem_builtins`
    * `Expression.wellFormed_of_compile`
    * `Registry.Standard.sound`
    * `Registry.Standard.find?_compare`
    * `Registry.Standard.forall_predicates`
-/

------------------------------------------------------------
-- Single Filters
------------------------------------------------------------

namespace TreeKeeper

/- A pair of well-formed filters may be joined. -/
theorem Filter.WellFormed.and_pair
    {first second : Filter}
    (hFirst : first.WellFormed)
    (hSecond : second.WellFormed) :
    (Filter.and [first, second]).WellFormed := by
  refine .and (Nat.le_refl 2) ?_
  intro child hChild
  rw [List.mem_cons, List.mem_singleton] at hChild
  rcases hChild with rfl | rfl
  · exact hFirst
  · exact hSecond

/- A number is compared with a field that holds numbers. -/
theorem Filter.wellFormed_unsigned
    {field : Field}
    {op : Operator}
    (hField : field.holds = .unsigned)
    (hOp : op.IsOrdering)
    (n : UInt64) :
    (Filter.compare field op (.unsigned n)).WellFormed := by
  have hNamed : field.IsNamed := by
    cases field <;> trivial
  refine .compare hNamed ?_
  rw [hField]
  exact .unsigned hOp n

namespace Window

theorem wellFormed_of_timeFilter
    {field : Field}
    {text : String}
    {unit : TimeUnit}
    {now : Int64}
    {filter : Filter}
    (hField : field.holds = .timestamp)
    (h : timeFilter field text unit now = .ok filter) :
    filter.WellFormed := by
  have hNamed : field.IsNamed := by
    cases field <;> trivial
  have hCompare :
      ∀ {op : Operator} (i : Int64), op.IsOrdering →
        (Filter.compare field op (.integer i)).WellFormed := by
    intro op i hOp
    refine .compare hNamed ?_
    rw [hField]
    exact .timestamp hOp i
  rcases bind_eq_ok_iff.1 h with ⟨window, _, h⟩
  rcases bind_eq_ok_iff.1 h with ⟨delta, _, h⟩
  rcases bind_eq_ok_iff.1 h with ⟨bound, _, h⟩
  cases hQualifier : window.qualifier with
  | moreThan =>
      rw [hQualifier] at h
      cases h
      exact hCompare bound trivial
  | lessThan =>
      rw [hQualifier] at h
      cases h
      exact hCompare bound trivial
  | exactly =>
      rw [hQualifier] at h
      rcases bind_eq_ok_iff.1 h with ⟨earliest, _, h⟩
      cases h
      exact .and_pair (hCompare earliest trivial)
        (hCompare bound trivial)

theorem wellFormed_of_sizeFilter
    {text : String}
    {filter : Filter}
    (h : sizeFilter text = .ok filter) :
    filter.WellFormed := by
  have hCompare :
      ∀ {op : Operator} (n : UInt64), op.IsOrdering →
        (Filter.compare .size op (.unsigned n)).WellFormed :=
    fun n hOp => Filter.wellFormed_unsigned rfl hOp n
  rcases bind_eq_ok_iff.1 h with ⟨window, _, h⟩
  cases hUnit : sizeUnit? window.suffix with
  | none => simp [hUnit] at h
  | some unit =>
      simp only [hUnit] at h
      split at h
      · exact nomatch h
      · split at h
        · exact nomatch h
        · cases hQualifier : window.qualifier with
          | moreThan =>
              rw [hQualifier] at h
              cases h
              exact hCompare _ trivial
          | lessThan =>
              rw [hQualifier] at h
              cases h
              exact hCompare _ trivial
          | exactly =>
              rw [hQualifier] at h
              cases h
              exact .and_pair (hCompare _ trivial)
                (hCompare _ trivial)

theorem wellFormed_of_counterFilter
    {field : Field}
    {text : String}
    {filter : Filter}
    (hField : field.holds = .unsigned)
    (h : counterFilter field text = .ok filter) :
    filter.WellFormed := by
  rcases bind_eq_ok_iff.1 h with ⟨window, _, h⟩
  cases h
  have hOp : (operatorOf window.qualifier).IsOrdering := by
    cases window.qualifier <;> trivial
  exact Filter.wellFormed_unsigned hField hOp _

end Window

theorem Mode.wellFormed_of_filter
    {text : String}
    {filter : Filter}
    (h : Mode.filter text = .ok filter) :
    filter.WellFormed := by
  have hCompare :
      ∀ {op : Operator} (rest : List Char),
        (∀ mask, op.Takes .unsigned (.unsigned mask)) →
        (do
          let mode ← Mode.ofText (String.ofList rest)
          return Filter.compare .mode op
            (.unsigned mode.toUInt64)) = .ok filter →
        filter.WellFormed := by
    intro op rest hOp h
    rcases bind_eq_ok_iff.1 h with ⟨mode, _, h⟩
    cases h
    exact .compare trivial (hOp _)
  unfold Mode.filter at h
  dsimp only at h
  split at h
  · exact nomatch h
  · exact hCompare _ .allOf h
  · exact hCompare _ .anyOf h
  · exact hCompare _ (.unsigned (by trivial)) h

------------------------------------------------------------
-- Predicates
------------------------------------------------------------

namespace Predicate

/- Whether a predicate builds well-formed filters only. -/
def Sound (p : Predicate) : Prop :=
  ∀ now args filter,
    p.build now args = .ok filter → filter.WellFormed

theorem sound_unary
    (token : String)
    {build :
      Int64 → String → Except ExpressionFault Filter}
    (hBuild :
      ∀ now arg filter,
        build now arg = .ok filter → filter.WellFormed) :
    (unary token build).Sound := by
  intro now args filter h
  match args with
  | [] => exact nomatch h
  | [arg] => exact hBuild now arg filter h
  | _ :: _ :: _ => exact nomatch h

/- A report replaces faults only. -/
theorem blame_eq_ok_iff
    {ε α : Type}
    {token argument : String}
    {fault : ε → ArgumentFault}
    {result : Except ε α}
    {a : α} :
    blame token argument fault result = .ok a ↔
      result = .ok a := by
  cases result with
  | error e => exact ⟨nofun, nofun⟩
  | ok b =>
      constructor
      · intro hBlame
        cases hBlame
        rfl
      · intro hResult
        cases hResult
        rfl

theorem wellFormed_of_patternFilter
    {token source argument : String}
    {field : Field}
    {ignoreCase : Bool}
    {filter : Filter}
    (hNamed : field.IsNamed)
    (h : patternFilter token field source argument
      ignoreCase = .ok filter) :
    filter.WellFormed := by
  unfold patternFilter at h
  split at h
  · cases h
    exact .compare hNamed (.pattern _)
  · exact nomatch h

theorem wellFormed_kindFilter (kind : FileKind) :
    (kindFilter kind).WellFormed :=
  .compare (by trivial) (.text (by trivial) _)

theorem sound_glob
    (token : String)
    {field : Field}
    (ignoreCase : Bool)
    (hNamed : field.IsNamed) :
    (glob token field ignoreCase).Sound :=
  sound_unary token fun _ _ _ h =>
    wellFormed_of_patternFilter hNamed h

theorem sound_regex
    (token : String)
    (ignoreCase : Bool) :
    (regex token ignoreCase).Sound :=
  sound_unary token fun _ _ _ h =>
    wellFormed_of_patternFilter (by trivial) h

theorem sound_counter
    (token : String)
    {field : Field}
    (hField : field.holds = .unsigned) :
    (counter token field).Sound :=
  sound_unary token fun _ _ _ h =>
    Window.wellFormed_of_counterFilter hField
      (blame_eq_ok_iff.1 h)

theorem sound_age
    (token : String)
    {field : Field}
    (unit : TimeUnit)
    (hField : field.holds = .timestamp) :
    (age token field unit).Sound :=
  sound_unary token fun _ _ _ h =>
    Window.wellFormed_of_timeFilter hField
      (blame_eq_ok_iff.1 h)

theorem sound_kind : kind.Sound := by
  apply sound_unary
  intro now arg filter h
  split at h
  · cases h
    exact wellFormed_kindFilter _
  · exact nomatch h

theorem sound_empty : empty.Sound := by
  intro now args filter h
  cases h
  exact .and_pair
    (Filter.wellFormed_unsigned rfl (by trivial) 0)
    (wellFormed_kindFilter .file)

theorem sound_size : size.Sound :=
  sound_unary "-size" fun _ _ _ h =>
    Window.wellFormed_of_sizeFilter (blame_eq_ok_iff.1 h)

theorem sound_mode : mode.Sound :=
  sound_unary "-perm" fun _ _ _ h =>
    Mode.wellFormed_of_filter (blame_eq_ok_iff.1 h)

theorem sound_xattr : xattr.Sound := by
  apply sound_unary
  intro now arg filter h
  split at h
  · exact nomatch h
  · rename_i hKey
    cases h
    exact .compare hKey (.presence true)

theorem sound_compare : compare.Sound := by
  intro now args filter h
  match args with
  | [field, symbol, value] =>
      exact wellFormed_of_compareFilter h
  | [] => exact nomatch h
  | [_] => exact nomatch h
  | [_, _] => exact nomatch h
  | _ :: _ :: _ :: _ :: _ => exact nomatch h

theorem sound_tier : tier.Sound := by
  apply sound_unary
  intro now arg filter h
  split at h
  · exact nomatch h
  · cases h
    have hKey : tierAttribute ≠ "" := by decide
    exact .compare hKey (.text (by trivial) arg)

/- Names of classes stand for the filters of the classes. -/
theorem sound_fileClass
    {classes : List (String × Filter)}
    (hClasses : ∀ c ∈ classes, c.2.WellFormed) :
    (fileClass classes).Sound := by
  apply sound_unary
  intro now arg filter h
  split at h
  · rename_i found hFound
    cases h
    rcases List.lookup_eq_some_iff.1 hFound with
      ⟨_, _, rfl, _⟩
    exact hClasses (arg, filter) (by simp)
  · cases h

/- Each predicate that is always there is sound. -/
theorem sound_of_mem_builtins
    {p : Predicate}
    (hMember : p ∈ builtins) :
    p.Sound := by
  have hAll : ∀ q ∈ builtins, q.Sound := by
    simp only [builtins, List.forall_mem_cons]
    exact ⟨
      sound_glob _ _ trivial,
      sound_glob _ _ trivial,
      sound_glob _ _ trivial,
      sound_regex _ _,
      sound_regex _ _,
      sound_glob _ _ trivial,
      sound_glob _ _ trivial,
      sound_kind,
      sound_empty,
      sound_size,
      sound_mode,
      sound_xattr,
      sound_counter _ rfl,
      sound_counter _ rfl,
      sound_counter _ rfl,
      sound_counter _ rfl,
      sound_counter _ rfl,
      sound_age _ _ rfl,
      sound_age _ _ rfl,
      sound_age _ _ rfl,
      sound_age _ _ rfl,
      sound_age _ _ rfl,
      sound_age _ _ rfl,
      sound_compare,
      List.forall_mem_nil _⟩
  exact hAll p hMember

end Predicate

------------------------------------------------------------
-- Expressions
------------------------------------------------------------

/- Whether every predicate of a registry is sound. -/
def Registry.Sound (registry : Registry) : Prop :=
  ∀ p ∈ registry.predicates, p.Sound

namespace Expression

variable {registry : Registry} {now : Int64}

theorem wellFormed_of_joined
    {node : List Filter → Filter}
    {filters : List Filter}
    {filter : Filter}
    (hNode :
      ∀ {children}, 2 ≤ children.length →
        (∀ child ∈ children, child.WellFormed) →
        (node children).WellFormed)
    (hJoined : Joined node filters filter)
    (hFilters : ∀ f ∈ filters, f.WellFormed) :
    filter.WellFormed := by
  cases hJoined with
  | one => exact hFilters _ List.mem_cons_self
  | several first second others =>
      exact hNode (by simp) hFilters

mutual

/- Operands over a sound registry are well-formed. -/
theorem wellFormed_of_factor
    (hSound : registry.Sound)
    {words : List String}
    {filter : Filter}
    {sorts : List SortKey}
    (h : Factor registry now words filter sorts) :
    filter.WellFormed := by
  match h with
  | .negation hWord hFactor =>
      exact .not (wellFormed_of_factor hSound hFactor)
  | .group hTerms hJoined =>
      exact wellFormed_of_joined .or hJoined
        (wellFormed_of_terms hSound hTerms)
  | .predicate hOffers hArity hBuild =>
      have hMember := List.mem_of_find?_eq_some hOffers.2
      exact hSound _ hMember _ _ _ hBuild

theorem wellFormed_of_items
    (hSound : registry.Sound)
    {started : Bool}
    {words : List String}
    {filters : List Filter}
    {sorts : List SortKey}
    (h : Items registry now started words filters sorts) :
    ∀ filter ∈ filters, filter.WellFormed := by
  match h with
  | .nil => exact List.forall_mem_nil _
  | .sort hWord hField hItems =>
      exact wellFormed_of_items hSound hItems
  | .factor hFactor hItems =>
      exact List.forall_mem_cons.2
        ⟨wellFormed_of_factor hSound hFactor,
          wellFormed_of_items hSound hItems⟩
  | .conjunction hWord hFactor hItems =>
      exact List.forall_mem_cons.2
        ⟨wellFormed_of_factor hSound hFactor,
          wellFormed_of_items hSound hItems⟩

theorem wellFormed_of_terms
    (hSound : registry.Sound)
    {words : List String}
    {filters : List Filter}
    {sorts : List SortKey}
    (h : Terms registry now words filters sorts) :
    ∀ filter ∈ filters, filter.WellFormed := by
  match h with
  | .one hItems hJoined =>
      intro filter hFilter
      cases List.mem_singleton.1 hFilter
      exact wellFormed_of_joined .and hJoined
        (wellFormed_of_items hSound hItems)
  | .more hItems hJoined hWord hTerms =>
      exact List.forall_mem_cons.2
        ⟨wellFormed_of_joined .and hJoined
            (wellFormed_of_items hSound hItems),
          wellFormed_of_terms hSound hTerms⟩

end

theorem wellFormed_of_sentence
    (hSound : registry.Sound)
    {words : List String}
    {filter : Filter}
    {sorts : List SortKey}
    (h : Sentence registry now words (some filter) sorts) :
    filter.WellFormed := by
  cases h with
  | terms hTerms hJoined =>
      exact wellFormed_of_joined .or hJoined
        (wellFormed_of_terms hSound hTerms)

/-
  Whatever an expression over a sound registry asks for is
  well-formed.
-/
theorem wellFormed_of_compile
    (hSound : registry.Sound)
    {args : List String}
    {filter : Filter}
    {sorts : List SortKey}
    (h : compile registry now args =
      .ok (some filter, sorts)) :
    filter.WellFormed :=
  wellFormed_of_sentence hSound (sentence_of_compile h)

end Expression

------------------------------------------------------------
-- Standard Registries
------------------------------------------------------------

namespace Registry

mutual

/-
  Registries with the predicates that are always there, and
  any number of predicates for tiers and for classes.
-/
inductive Standard : Registry → Prop
| builtin : Standard .builtin
| tier
    {registry : Registry}
    (hStandard : Standard registry) :
    Standard (registry.register Predicate.tier)
| classes
    {registry : Registry}
    {classes : List (String × Filter)}
    (hStandard : Standard registry)
    (hClasses : Compiled classes) :
    Standard
      (registry.register (Predicate.fileClass classes))

/-
  Classes whose filters are each read with some standard
  registry at some time.
-/
inductive Compiled : List (String × Filter) → Prop
| nil : Compiled []
| cons
    {registry : Registry}
    {now : Int64}
    {name : String}
    {args : List String}
    {filter : Filter}
    {sorts : List SortKey}
    {classes : List (String × Filter)}
    (hStandard : Standard registry)
    (hCompile :
      Expression.compile registry now args =
        .ok (some filter, sorts))
    (hClasses : Compiled classes) :
    Compiled ((name, filter) :: classes)

end

theorem Sound.register
    {registry : Registry}
    {p : Predicate}
    (hRegistry : registry.Sound)
    (hPredicate : p.Sound) :
    (registry.register p).Sound :=
  List.forall_mem_cons.2 ⟨hPredicate, hRegistry⟩

mutual

/- Standard registries are sound. -/
theorem Standard.sound
    {registry : Registry}
    (h : Standard registry) :
    registry.Sound := by
  match h with
  | .builtin =>
      intro p hMember
      exact Predicate.sound_of_mem_builtins hMember
  | .tier hStandard =>
      exact hStandard.sound.register Predicate.sound_tier
  | .classes hStandard hClasses =>
      exact hStandard.sound.register
        (Predicate.sound_fileClass hClasses.wellFormed)

theorem Compiled.wellFormed
    {classes : List (String × Filter)}
    (h : Compiled classes) :
    ∀ c ∈ classes, c.2.WellFormed := by
  match h with
  | .nil => exact List.forall_mem_nil _
  | .cons hStandard hCompile hClasses =>
      exact List.forall_mem_cons.2
        ⟨Expression.wellFormed_of_compile hStandard.sound
            hCompile,
          hClasses.wellFormed⟩

end

/- No standard registry hides the general comparison. -/
theorem Standard.find?_compare
    {registry : Registry}
    (h : Standard registry) :
    registry.find? "-compare" = some Predicate.compare := by
  match h with
  | .builtin => rfl
  | .tier hStandard => exact hStandard.find?_compare
  | .classes hStandard hClasses =>
      exact hStandard.find?_compare

/-
  A standard registry has the predicates that are always
  there, and others for tiers and classes only.
-/
theorem Standard.forall_predicates
    {registry : Registry}
    {property : Predicate → Prop}
    (hBuiltins : ∀ p ∈ Predicate.builtins, property p)
    (hTier : property Predicate.tier)
    (hClass :
      ∀ classes, property (Predicate.fileClass classes))
    (h : Standard registry) :
    ∀ p ∈ registry.predicates, property p := by
  match h with
  | .builtin => exact hBuiltins
  | .tier hStandard =>
      exact List.forall_mem_cons.2
        ⟨hTier,
          hStandard.forall_predicates hBuiltins hTier hClass⟩
  | .classes hStandard hClasses =>
      exact List.forall_mem_cons.2
        ⟨hClass _,
          hStandard.forall_predicates hBuiltins hTier hClass⟩

end Registry

end TreeKeeper
