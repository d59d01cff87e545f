import TreeKeeper.Proofs.Filter.Building

/-
  Printing a filter and reading it again.  The arguments of a
  well-formed filter are derived by the grammar with the
  filter as their tree, over every registry that offers the
  general comparison.  So the filter of an expression over a
  standard registry is read back from its arguments.

  Main declarations:
    * `Expression.factor_groupedArgs`
    * `Expression.sentence_toArgs`
    * `Expression.compile_toArgs`
-/

------------------------------------------------------------
-- Comparisons
------------------------------------------------------------

namespace TreeKeeper

namespace Expression

section Derivations

variable {registry : Registry} {now : Int64}

theorem offers_compare
    (hCompare : registry.find? "-compare" =
      some Predicate.compare) :
    Offers registry "-compare" Predicate.compare := by
  refine ⟨?_, hCompare⟩
  unfold IsReserved IsNegation IsConjunction IsDisjunction
    IsSort
  decide

theorem factor_compare
    {field : Field}
    {op : Operator}
    {value : Operand}
    (hCompare : registry.find? "-compare" =
      some Predicate.compare)
    (hNamed : field.IsNamed)
    (hTakes : op.Takes field.holds value) :
    Factor registry now
      ["-compare", field.title,
        Filter.operatorArg op value, value.text]
      (.compare field op value) [] := by
  have hBuild :
      Predicate.compare.build now
          [field.title, Filter.operatorArg op value,
            value.text] =
        .ok (.compare field op value) :=
    Predicate.compareFilter_text "-compare" hNamed hTakes
  exact .predicate (offers_compare hCompare) rfl hBuild

------------------------------------------------------------
-- Operators In Between
------------------------------------------------------------

/- Operands, each behind a conjunction, follow an operand. -/
theorem items_furtherArgs
    {children : List Filter}
    (hChildren : ∀ child ∈ children,
      Factor registry now child.groupedArgs child []) :
    Items registry now true
      (Filter.furtherArgs "-and" children) children [] := by
  induction children with
  | nil => exact .nil
  | cons child others ih =>
      rcases List.forall_mem_cons.1 hChildren with
        ⟨hChild, hOthers⟩
      exact .conjunction (.inr rfl) hChild (ih hOthers)

/- One operand alone is a list of items. -/
theorem items_singleton
    {words : List String}
    {filter : Filter}
    {sorts : List SortKey}
    (hFactor : Factor registry now words filter sorts) :
    Items registry now false words [filter] sorts := by
  have hItems :
      Items registry now false (words ++ []) [filter]
        (sorts ++ []) :=
    .factor hFactor .nil
  rw [List.append_nil, List.append_nil] at hItems
  exact hItems

/- Several filters get a node above them. -/
theorem joined_of_length
    {node : List Filter → Filter}
    {children : List Filter}
    (hLength : 2 ≤ children.length) :
    Joined node children (node children) := by
  match children with
  | [] => simp at hLength
  | [_] => simp at hLength
  | first :: second :: others =>
      exact .several first second others

/- A conjunction of several operands is one term. -/
theorem terms_and
    {children : List Filter}
    (hLength : 2 ≤ children.length)
    (hChildren : ∀ child ∈ children,
      Factor registry now child.groupedArgs child []) :
    Terms registry now
      (Filter.joinedArgs "-and" children)
      [.and children] [] := by
  have hJoined : Joined .and children (.and children) :=
    joined_of_length hLength
  cases children with
  | nil => simp at hLength
  | cons first others =>
      rcases List.forall_mem_cons.1 hChildren with
        ⟨hFirst, hOthers⟩
      have hItems := items_furtherArgs hOthers
      exact .one (.factor hFirst hItems) hJoined

theorem terms_or_cons
    {first : Filter}
    {others : List Filter}
    (hChildren : ∀ child ∈ first :: others,
      Factor registry now child.groupedArgs child []) :
    Terms registry now
      (Filter.joinedArgs "-or" (first :: others))
      (first :: others) [] := by
  induction others generalizing first with
  | nil =>
      have hItems :=
        items_singleton (hChildren first List.mem_cons_self)
      unfold Filter.joinedArgs Filter.furtherArgs
      rw [List.append_nil]
      exact .one hItems (.one first)
  | cons second others ih =>
      rcases List.forall_mem_cons.1 hChildren with
        ⟨hFirst, hOthers⟩
      have hTerms := ih hOthers
      exact .more (items_singleton hFirst) (.one first)
        (.inr rfl) hTerms

/- Each operand of a disjunction is a term of its own. -/
theorem terms_or
    {children : List Filter}
    (hLength : 2 ≤ children.length)
    (hChildren : ∀ child ∈ children,
      Factor registry now child.groupedArgs child []) :
    Terms registry now
      (Filter.joinedArgs "-or" children) children [] := by
  cases children with
  | nil => simp at hLength
  | cons first others => exact terms_or_cons hChildren

------------------------------------------------------------
-- Whole Filters
------------------------------------------------------------

/-
  The arguments of a filter below another node are an
  operand that stands for the filter.
-/
theorem factor_groupedArgs
    (hCompare : registry.find? "-compare" =
      some Predicate.compare)
    {filter : Filter}
    (hFilter : filter.WellFormed) :
    Factor registry now filter.groupedArgs filter [] := by
  induction hFilter with
  | compare hNamed hTakes =>
      exact factor_compare hCompare hNamed hTakes
  | and hLength hChildren ih =>
      exact .group (terms_and hLength ih) (.one _)
  | or hLength hChildren ih =>
      exact .group (terms_or hLength ih)
        (joined_of_length hLength)
  | not hChild ih =>
      exact .negation (.inl rfl) ih

/- The arguments of a filter are a sentence for it. -/
theorem sentence_toArgs
    (hCompare : registry.find? "-compare" =
      some Predicate.compare)
    {filter : Filter}
    (hFilter : filter.WellFormed) :
    Sentence registry now filter.toArgs (some filter)
      [] := by
  have hFactor :
      ∀ {f : Filter}, f.WellFormed →
        Factor registry now f.groupedArgs f [] :=
    factor_groupedArgs hCompare
  have hAlone :
      Sentence registry now filter.groupedArgs
        (some filter) [] :=
    .terms
      (.one (items_singleton (hFactor hFilter))
        (.one filter))
      (.one filter)
  cases hFilter with
  | compare hNamed hTakes => exact hAlone
  | not hChild => exact hAlone
  | and hLength hChildren =>
      have hTerms := terms_and hLength fun child hChild =>
        hFactor (hChildren child hChild)
      exact .terms hTerms (.one _)
  | or hLength hChildren =>
      have hTerms := terms_or hLength fun child hChild =>
        hFactor (hChildren child hChild)
      exact .terms hTerms (joined_of_length hLength)

end Derivations

/-
  The filter of an expression over a standard registry is
  read back from its own arguments, at any time and without
  sort directives.
-/
theorem compile_toArgs
    {registry : Registry}
    {now : Int64}
    {args : List String}
    {filter : Filter}
    {sorts : List SortKey}
    (hStandard : registry.Standard)
    (hCompile : compile registry now args =
      .ok (some filter, sorts))
    (later : Int64) :
    compile registry later filter.toArgs =
      .ok (some filter, []) := by
  have hFilter : filter.WellFormed :=
    wellFormed_of_compile hStandard.sound hCompile
  have hSentence :
      Sentence registry later filter.toArgs (some filter)
        [] :=
    sentence_toArgs hStandard.find?_compare hFilter
  exact compile_of_sentence hSentence

/- A negation reads back, parentheses and all. -/
theorem compile_toArgs_negation :
    let registry :=
      Registry.builtin.register Predicate.tier
    let filter : Filter :=
      .not (.or [
        .compare (.xattr "user.tier") .equal
          (.string "cold"),
        .compare .uid .greater (.unsigned 5)])
    compile registry 0 ["-sort", "size", "-not", "(",
        "-tier", "cold", "-o", "-uid", "+5", ")"] =
      .ok (some filter, [⟨.size, true⟩]) ∧
    compile registry 0 filter.toArgs =
      .ok (some filter, []) := by
  intro registry filter
  have hCompile :
      compile registry 0 ["-sort", "size", "-not", "(",
          "-tier", "cold", "-o", "-uid", "+5", ")"] =
        .ok (some filter, [⟨.size, true⟩]) := by
    rfl
  exact ⟨hCompile,
    compile_toArgs (.tier .builtin) hCompile 0⟩

end Expression

end TreeKeeper
