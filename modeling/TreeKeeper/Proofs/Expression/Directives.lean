import TreeKeeper.Predicate.Builtin
import TreeKeeper.Proofs.Expression.Operands

/-
  Sort directives that are put into an expression.  Between
  any two phrases an operand may begin, and a directive that
  is put there leaves the filter as it is and adds its key at
  its place, unless the phrase in front is a negation or a
  conjunction, whose operand has to follow at once.

  Key definitions include:
    * `Expression.key?`
    * `Expression.keys`
    * `Expression.AdmitsDirective`

  Main declarations:
    * `Expression.Sentence.sorts_eq`
    * `Expression.Sentence.insert`
    * `Expression.compile_insert`
-/

------------------------------------------------------------
-- Directives Among Phrases
------------------------------------------------------------

namespace TreeKeeper

namespace Expression

/- The sort key of a phrase that is a directive. -/
def key? : List String → Option SortKey
| [word, name] =>
    if word = "-sort" then
      (SortKey.field? name).map (⟨·, true⟩)
    else if word = "-rsort" then
      (SortKey.field? name).map (⟨·, false⟩)
    else none
| _ => none

/- The sort keys of the directives among phrases. -/
def keys (spoken : List (List String)) : List SortKey :=
  spoken.filterMap key?

variable {registry : Registry} {now : Int64}

theorem key?_directive
    {ascending : Bool}
    {word : String}
    {field : Field}
    (hWord : IsSort ascending word)
    (hField : field ∈ SortKey.fields) :
    key? [word, field.title] = some ⟨field, ascending⟩ := by
  have hFound : SortKey.field? field.title = some field :=
    SortKey.field?_eq_some_iff.2 ⟨hField, rfl⟩
  unfold IsSort at hWord
  subst hWord
  cases ascending <;> simp [key?, hFound]

/- A predicate with its arguments is no directive. -/
theorem key?_predicate
    {word : String}
    {p : Predicate}
    (hOffers : Offers registry word p)
    (args : List String) :
    key? (word :: args) = none := by
  have hFree := hOffers.1
  unfold IsReserved IsSort at hFree
  unfold key?
  split
  · rename_i first name hSame
    cases hSame
    grind
  · rfl

@[simp]
theorem keys_nil : keys [] = [] :=
  rfl

@[simp]
theorem keys_append
    (spoken others : List (List String)) :
    keys (spoken ++ others) = keys spoken ++ keys others :=
  List.filterMap_append

@[simp]
theorem keys_sign
    (word : String)
    (spoken : List (List String)) :
    keys ([word] :: spoken) = keys spoken :=
  rfl

theorem keys_directive
    {ascending : Bool}
    {word : String}
    {field : Field}
    (hWord : IsSort ascending word)
    (hField : field ∈ SortKey.fields)
    (spoken : List (List String)) :
    keys ([word, field.title] :: spoken) =
      ⟨field, ascending⟩ :: keys spoken :=
  List.filterMap_cons_some (key?_directive hWord hField)

mutual

/- The sort keys of a derivation are those of its phrases. -/
theorem Factor.sorts_eq
    {words : List String}
    {filter : Filter}
    {sorts : List SortKey} :
    Factor registry now words filter sorts →
      sorts = keys (phrases registry words)
| .negation hWord hFactor => by
    rw [phrases_sign registry (isSign_of_isNegation hWord),
      keys_sign]
    exact hFactor.sorts_eq
| .group hTerms _ => by
    rw [List.cons_append,
      phrases_sign registry (.inl rfl), keys_sign,
      hTerms.phrases_append,
      phrases_sign registry (.inr (.inl rfl)), keys_append,
      keys_sign, ← hTerms.sorts_eq]
    exact (List.append_nil _).symm
| .predicate hOffers hArity _ => by
    rw [phrases_predicate hOffers hArity]
    unfold keys
    rw [List.filterMap_cons_none (key?_predicate hOffers _)]
    rfl

theorem Items.sorts_eq
    {started : Bool}
    {words : List String}
    {filters : List Filter}
    {sorts : List SortKey} :
    Items registry now started words filters sorts →
      sorts = keys (phrases registry words)
| .nil => rfl
| .sort hWord hField hItems => by
    rw [phrases_directive registry hWord,
      keys_directive hWord hField, ← hItems.sorts_eq]
| .factor hFactor hItems => by
    rw [hFactor.phrases_append, keys_append,
      ← hFactor.sorts_eq, ← hItems.sorts_eq]
| .conjunction hWord hFactor hItems => by
    rw [phrases_sign registry
        (isSign_of_isConjunction hWord), keys_sign,
      hFactor.phrases_append, keys_append,
      ← hFactor.sorts_eq, ← hItems.sorts_eq]

theorem Terms.sorts_eq
    {words : List String}
    {filters : List Filter}
    {sorts : List SortKey} :
    Terms registry now words filters sorts →
      sorts = keys (phrases registry words)
| .one hItems _ => hItems.sorts_eq
| .more hItems _ hWord hTerms => by
    rw [hItems.phrases_append,
      phrases_sign registry (isSign_of_isDisjunction hWord),
      keys_append, keys_sign, ← hItems.sorts_eq,
      ← hTerms.sorts_eq]

end

theorem Sentence.sorts_eq
    {words : List String}
    {filter : Option Filter}
    {sorts : List SortKey}
    (h : Sentence registry now words filter sorts) :
    sorts = keys (phrases registry words) := by
  cases h with
  | terms hTerms _ => exact hTerms.sorts_eq
  | directives hItems => exact hItems.sorts_eq

------------------------------------------------------------
-- Insertion
------------------------------------------------------------

variable {ascending : Bool} {word : String} {field : Field}
variable {front behind : List (List String)}

/-
  Whether a directive may stand behind phrases: no operator at
  their end has an operand to follow at once.
-/
def AdmitsDirective (spoken : List (List String)) : Prop :=
  ∀ operator, ¬ AsksOperand spoken operator

theorem AdmitsDirective.of_append
    (h : AdmitsDirective (front ++ behind)) :
    AdmitsDirective behind :=
  fun operator hAsks => h operator (hAsks.append front)

/- Behind a negation or a conjunction has to be an operand. -/
theorem AdmitsDirective.ne_nil
    {operator : String}
    (hOperator :
      IsNegation operator ∨ IsConjunction operator)
    (h : AdmitsDirective ([operator] :: front)) :
    front ≠ [] := by
  rintro rfl
  exact h operator ⟨hOperator, rfl⟩

theorem AdmitsDirective.of_cons
    {phrase : List String}
    (h : AdmitsDirective (phrase :: front)) :
    AdmitsDirective front :=
  @of_append [phrase] front h

/- A directive may stand in front of items. -/
theorem Items.insert_front
    (hWord : IsSort ascending word)
    (hField : field ∈ SortKey.fields)
    {started : Bool}
    {words : List String}
    {filters : List Filter}
    {sorts : List SortKey}
    (h : Items registry now started words filters sorts) :
    Items registry now started
      ([word, field.title] ::
        phrases registry words).flatten
      filters
      (keys
        ([word, field.title] :: phrases registry words)) := by
  rw [List.flatten_cons, flatten_phrases,
    keys_directive hWord hField, ← h.sorts_eq]
  exact .sort hWord hField h

/-
  Where an operand and the items behind it take a directive
  each, so do both of them together.  The place in front of
  the operand is left to those who know what stands there.
-/
theorem exists_insert_of_append
    {words others : List String}
    {filter : Filter}
    {filters : List Filter}
    {inner sorts : List SortKey}
    (hFactor : Factor registry now words filter inner)
    (hItems : Items registry now true others filters sorts)
    (hInFactor :
      ∀ front behind : List (List String),
        phrases registry words = front ++ behind →
        front ≠ [] → behind ≠ [] →
        AdmitsDirective front →
          Factor registry now
            (front ++ [word, field.title] :: behind).flatten
            filter
            (keys (front ++ [word, field.title] :: behind)))
    (hInItems :
      ∀ front behind : List (List String),
        phrases registry others = front ++ behind →
        AdmitsDirective front →
          Items registry now true
            (front ++ [word, field.title] :: behind).flatten
            filters
            (keys (front ++ [word, field.title] :: behind)))
    (hPhrases :
      phrases registry (words ++ others) = front ++ behind)
    (hFront : front ≠ [])
    (hFree : AdmitsDirective front) :
    ∃ words others inner sorts,
      (front ++ [word, field.title] :: behind).flatten =
        words ++ others ∧
      keys (front ++ [word, field.title] :: behind) =
        inner ++ sorts ∧
      Factor registry now words filter inner ∧
      Items registry now true others filters sorts := by
  rw [hFactor.phrases_append] at hPhrases
  rcases exists_boundary hPhrases.symm with
    ⟨between, rfl, hOthers⟩ |
      ⟨between, hSome, hWords, rfl⟩
  · refine ⟨words, _, inner, _, ?_, ?_, hFactor,
      hInItems _ _ hOthers hFree.of_append⟩
    · rw [List.append_assoc, List.flatten_append,
        flatten_phrases]
    · rw [List.append_assoc, keys_append,
        ← hFactor.sorts_eq]
  · refine ⟨_, others, _, sorts, ?_, ?_,
      hInFactor _ _ hWords hFront hSome hFree, hItems⟩
    · rw [← List.cons_append, ← List.append_assoc,
        List.flatten_append, flatten_phrases]
    · rw [← List.cons_append, ← List.append_assoc,
        keys_append, ← hItems.sorts_eq]

mutual

/-
  A directive may stand inside of an operand, in front of its
  end and behind its first phrase.
-/
theorem Factor.insert
    (hWord : IsSort ascending word)
    (hField : field ∈ SortKey.fields)
    {words : List String}
    {filter : Filter}
    {sorts : List SortKey} :
    Factor registry now words filter sorts →
      ∀ front behind : List (List String),
        phrases registry words = front ++ behind →
        front ≠ [] → behind ≠ [] →
        AdmitsDirective front →
          Factor registry now
            (front ++ [word, field.title] :: behind).flatten
            filter
            (keys (front ++ [word, field.title] :: behind))
| .negation hNegation hFactor => by
    intro front behind hPhrases hFront hBehind hFree
    rw [phrases_sign registry
      (isSign_of_isNegation hNegation)] at hPhrases
    cases front with
    | nil => exact absurd rfl hFront
    | cons first front =>
        rcases List.cons.inj hPhrases with ⟨rfl, hInner⟩
        have hSome := hFree.ne_nil (.inl hNegation)
        have hInserted := hFactor.insert hWord hField _ _
          hInner hSome hBehind hFree.of_cons
        exact .negation hNegation hInserted
| .group hTerms hJoined => by
    intro front behind hPhrases hFront hBehind hFree
    rw [List.cons_append,
      phrases_sign registry (.inl rfl),
      hTerms.phrases_append,
      phrases_sign registry (.inr (.inl rfl))] at hPhrases
    cases front with
    | nil => exact absurd rfl hFront
    | cons first front =>
        rcases List.cons.inj hPhrases with ⟨rfl, hInner⟩
        rcases behind.eq_nil_or_concat with rfl |
          ⟨between, last, rfl⟩
        · exact absurd rfl hBehind
        · rw [List.concat_eq_append] at hInner ⊢
          change _ = front ++ (between ++ [last]) at hInner
          rw [← List.append_assoc] at hInner
          rcases List.append_inj' hInner rfl with
            ⟨hTermsInner, hLast⟩
          have hInserted := hTerms.insert hWord hField _ _
            hTermsInner hFree.of_cons
          have hGroup := Factor.group hInserted hJoined
          cases hLast
          simpa [keys_directive hWord hField] using hGroup
| .predicate hOffers hArity _ => by
    intro front behind hPhrases hFront hBehind _
    rw [phrases_predicate hOffers hArity] at hPhrases
    have hLength := congrArg List.length hPhrases
    have hFrontLength := List.length_pos_iff.2 hFront
    have hBehindLength := List.length_pos_iff.2 hBehind
    rw [List.length_singleton, List.length_append] at hLength
    omega

/- A directive may stand between the phrases of items. -/
theorem Items.insert
    (hWord : IsSort ascending word)
    (hField : field ∈ SortKey.fields)
    {started : Bool}
    {words : List String}
    {filters : List Filter}
    {sorts : List SortKey} :
    Items registry now started words filters sorts →
      ∀ front behind : List (List String),
        phrases registry words = front ++ behind →
        AdmitsDirective front →
          Items registry now started
            (front ++ [word, field.title] :: behind).flatten
            filters
            (keys (front ++ [word, field.title] :: behind))
| .nil => by
    intro front behind hPhrases _
    rcases List.append_eq_nil_iff.1 hPhrases.symm with
      ⟨rfl, rfl⟩
    exact Items.nil.insert_front hWord hField
| .sort hSort hKey hItems => by
    intro front behind hPhrases hFree
    cases front with
    | nil =>
        have hFirst := Items.insert_front hWord hField
          (.sort hSort hKey hItems)
        rwa [hPhrases] at hFirst
    | cons first front =>
        rw [phrases_directive registry hSort] at hPhrases
        rcases List.cons.inj hPhrases with ⟨rfl, hInner⟩
        have hInserted := hItems.insert hWord hField _ _
          hInner hFree.of_cons
        rw [List.cons_append, keys_directive hSort hKey]
        exact .sort hSort hKey hInserted
| .factor hFactor hItems => by
    intro front behind hPhrases hFree
    by_cases hFront : front = []
    · subst hFront
      have hPlain : Items registry now started _ _ _ :=
        .factor hFactor hItems
      have hFirst := hPlain.insert_front hWord hField
      rwa [hPhrases] at hFirst
    · rcases exists_insert_of_append hFactor hItems
          (hFactor.insert hWord hField)
          (hItems.insert hWord hField) hPhrases hFront hFree
        with ⟨words, others, inner, sorts, hSame, hKeys,
          hNewFactor, hNewItems⟩
      rw [hSame, hKeys]
      exact .factor hNewFactor hNewItems
| .conjunction hConjunction hFactor hItems => by
    intro front behind hPhrases hFree
    cases front with
    | nil =>
        have hFirst := Items.insert_front hWord hField
          (.conjunction hConjunction hFactor hItems)
        rwa [hPhrases] at hFirst
    | cons first front =>
        rw [phrases_sign registry
          (isSign_of_isConjunction hConjunction)] at hPhrases
        rcases List.cons.inj hPhrases with ⟨rfl, hInner⟩
        have hFront := hFree.ne_nil (.inr hConjunction)
        rcases exists_insert_of_append hFactor hItems
            (hFactor.insert hWord hField)
            (hItems.insert hWord hField) hInner hFront
            hFree.of_cons
          with ⟨words, others, inner, sorts, hSame, hKeys,
            hNewFactor, hNewItems⟩
        rw [List.cons_append, List.flatten_cons, hSame,
          keys_sign, hKeys]
        change Items registry now true
          (_ :: (words ++ others)) _ _
        exact .conjunction hConjunction hNewFactor hNewItems

/- A directive may stand between the phrases of terms. -/
theorem Terms.insert
    (hWord : IsSort ascending word)
    (hField : field ∈ SortKey.fields)
    {words : List String}
    {filters : List Filter}
    {sorts : List SortKey} :
    Terms registry now words filters sorts →
      ∀ front behind : List (List String),
        phrases registry words = front ++ behind →
        AdmitsDirective front →
          Terms registry now
            (front ++ [word, field.title] :: behind).flatten
            filters
            (keys (front ++ [word, field.title] :: behind))
| .one hItems hJoined => by
    intro front behind hPhrases hFree
    exact .one
      (hItems.insert hWord hField _ _ hPhrases hFree) hJoined
| .more hItems hJoined hDisjunction hTerms => by
    intro front behind hPhrases hFree
    rw [hItems.phrases_append,
      phrases_sign registry
        (isSign_of_isDisjunction hDisjunction)] at hPhrases
    rcases exists_boundary hPhrases with
      ⟨between, hFirst, rfl⟩ | ⟨between, hSome, rfl, hOthers⟩
    · have hInserted := hItems.insert hWord hField _ _ hFirst
        hFree
      have hMore := Terms.more hInserted hJoined hDisjunction
        hTerms
      rw [hTerms.sorts_eq] at hMore
      simpa [flatten_phrases, keys_directive hWord hField]
        using hMore
    · cases between with
      | nil => exact absurd rfl hSome
      | cons next between =>
          rcases List.cons.inj hOthers with ⟨rfl, hInner⟩
          have hInserted := hTerms.insert hWord hField _ _
            hInner hFree.of_append.of_cons
          have hMore := Terms.more hItems hJoined hDisjunction
            hInserted
          rw [hItems.sorts_eq] at hMore
          simpa [flatten_phrases] using hMore

end

/- A directive may stand between the phrases of a sentence. -/
theorem Sentence.insert
    (hWord : IsSort ascending word)
    (hField : field ∈ SortKey.fields)
    {words : List String}
    {filter : Option Filter}
    {sorts : List SortKey}
    (h : Sentence registry now words filter sorts)
    (hPhrases : phrases registry words = front ++ behind)
    (hFree : AdmitsDirective front) :
    Sentence registry now
      (front ++ [word, field.title] :: behind).flatten
      filter
      (keys (front ++ [word, field.title] :: behind)) := by
  cases h with
  | terms hTerms hJoined =>
      exact .terms
        (hTerms.insert hWord hField _ _ hPhrases hFree)
        hJoined
  | directives hItems =>
      exact .directives
        (hItems.insert hWord hField _ _ hPhrases hFree)

------------------------------------------------------------
-- Whole Expressions
------------------------------------------------------------

/- No operand begins with a sort directive. -/
theorem atFactor_directive
    (registry : Registry)
    (hWord : IsSort ascending word)
    (rest : List String) :
    atFactor registry (word :: rest) = false := by
  rw [atFactor, classify_eq_sort_iff.2 hWord]
  rfl

/-
  A directive that is put between two phrases of an
  expression leaves the filter as it is and adds its key at
  its place among the others.  The exception are the places
  right behind a negation or a conjunction, where the
  expression is refused for the lack of an operand.
-/
theorem compile_insert
    {args : List String}
    {filter : Option Filter}
    {sorts : List SortKey}
    (hWord : IsSort ascending word)
    (hField : field ∈ SortKey.fields)
    (hCompile :
      compile registry now args = .ok (filter, sorts))
    (hPhrases : phrases registry args = front ++ behind) :
    sorts = keys front ++ keys behind ∧
      (AdmitsDirective front →
        compile registry now
            (front ++
              [word, field.title] :: behind).flatten =
          .ok (filter,
            keys front ++ ⟨field, ascending⟩ ::
              keys behind)) ∧
      ∀ operator, AsksOperand front operator →
        compile registry now
            (front ++
              [word, field.title] :: behind).flatten =
          .error (.missingOperand operator) := by
  have hSentence := sentence_of_compile hCompile
  refine ⟨?_, ?_, ?_⟩
  · rw [hSentence.sorts_eq, hPhrases, keys_append]
  · intro hFree
    have hInserted := compile_of_sentence
      (hSentence.insert hWord hField hPhrases hFree)
    rwa [keys_append, keys_directive hWord hField]
      at hInserted
  · intro operator hAsks
    rw [List.flatten_append]
    exact compile_refuses hCompile hPhrases hAsks
      (atFactor_directive registry hWord _)

/- A directive in front of the second alternative. -/
theorem compile_insert_behind_disjunction :
    let filter : Filter :=
      .or [
        .compare .uid .equal (.unsigned 1),
        .compare .uid .equal (.unsigned 2)]
    compile .builtin 0 ["-rsort", "name", "(", "-uid", "1",
        "-o", "-uid", "2", ")"] =
      .ok (some filter, [⟨.name, false⟩]) ∧
    compile .builtin 0 ["-rsort", "name", "(", "-uid", "1",
        "-o", "-sort", "size", "-uid", "2", ")"] =
      .ok (some filter, [⟨.name, false⟩, ⟨.size, true⟩]) := by
  intro filter
  have hCompile :
      compile .builtin 0 ["-rsort", "name", "(", "-uid", "1",
          "-o", "-uid", "2", ")"] =
        .ok (some filter, [⟨.name, false⟩]) := by
    rfl
  let front : List (List String) :=
    [["-rsort", "name"], ["("], ["-uid", "1"], ["-o"]]
  let behind : List (List String) := [["-uid", "2"], [")"]]
  have hPhrases :
      phrases .builtin ["-rsort", "name", "(", "-uid", "1",
          "-o", "-uid", "2", ")"] =
        front ++ behind := by
    rfl
  have hWord : IsSort true "-sort" := rfl
  have hField : Field.size ∈ SortKey.fields := by decide
  refine ⟨hCompile,
    (compile_insert hWord hField hCompile hPhrases).2.1 ?_⟩
  rintro operator ⟨hOperator, hLast⟩
  cases hLast
  simp [IsNegation, IsConjunction] at hOperator

/-
  Behind a conjunction the reader looks for an operand in the
  next word, where it does not expect a directive.
-/
theorem directive_refused_behind_conjunction :
    ¬ ∀ (args : List String)
        (filter : Option Filter)
        (sorts : List SortKey)
        (front behind : List (List String)),
      compile .builtin 0 args = .ok (filter, sorts) →
      phrases .builtin args = front ++ behind →
        compile .builtin 0
            (front ++ ["-sort", "size"] :: behind).flatten =
          .ok (filter,
            keys front ++ ⟨.size, true⟩ :: keys behind) := by
  intro hAll
  have hInserted :=
    hAll ["-uid", "1", "-a", "-uid", "2"]
      (some (.and [
        .compare .uid .equal (.unsigned 1),
        .compare .uid .equal (.unsigned 2)])) []
      [["-uid", "1"], ["-a"]] [["-uid", "2"]] rfl rfl
  have hRefused :
      compile .builtin 0 ["-uid", "1", "-a", "-sort", "size",
          "-uid", "2"] =
        .error (.missingOperand "-a") := by
    rfl
  exact nomatch hRefused.symm.trans hInserted

end Expression

end TreeKeeper
