import TreeKeeper.Proofs.Expression.Phrases

/-
  Operators whose operand is missing.  A negation and a
  conjunction look at the next word alone, and where that is
  no beginning of an operand the reader stops with a fault
  that names the operator, however deep it stands.

  Key definitions include:
    * `Expression.AsksOperand`
    * `Expression.RefusesTerms`

  Main declarations:
    * `Expression.flatten_phrases`
    * `Expression.Sentence.refuses`
    * `Expression.compile_refuses`
-/

------------------------------------------------------------
-- Phrases Of Derivations
------------------------------------------------------------

namespace TreeKeeper

namespace Expression

variable {registry : Registry} {now : Int64}

theorem phrases_sign
    (registry : Registry)
    {word : String}
    (hWord : IsSign word)
    (rest : List String) :
    phrases registry (word :: rest) =
      [word] :: phrases registry rest :=
  phrases_cons registry word [] rest
    (argumentCount_of_isSign hWord).symm

theorem phrases_directive
    (registry : Registry)
    {ascending : Bool}
    {word : String}
    (hWord : IsSort ascending word)
    (name : String)
    (rest : List String) :
    phrases registry (word :: name :: rest) =
      [word, name] :: phrases registry rest := by
  apply phrases_cons registry word [name] rest
  unfold argumentCount
  rw [classify_eq_sort_iff.2 hWord]
  rfl

theorem phrases_predicate
    {word : String}
    {p : Predicate}
    {args : List String}
    (hOffers : Offers registry word p)
    (hArity : args.length = p.arity) :
    phrases registry (word :: args) = [word :: args] := by
  have hSplit := phrases_cons registry word args [] (by
    unfold argumentCount
    rw [classify_eq_predicate_iff.2 hOffers]
    exact hArity)
  rwa [List.append_nil] at hSplit

/- The phrases of words make up the words. -/
theorem flatten_phrases
    (registry : Registry) :
    ∀ words : List String,
      (phrases registry words).flatten = words
| [] => rfl
| word :: rest => by
    have hBehind := flatten_phrases registry
      (rest.drop (argumentCount registry word))
    unfold phrases
    rw [phrasesBehind, phrasesBehind_eq_drop,
      List.flatten_cons, hBehind, List.cons_append,
      List.take_append_drop]
termination_by words => words.length
decreasing_by
  rw [List.length_drop, List.length_cons]
  omega

theorem Factor.phrases_append
    {words : List String}
    {filter : Filter}
    {sorts : List SortKey}
    (h : Factor registry now words filter sorts)
    (rest : List String) :
    phrases registry (words ++ rest) =
      phrases registry words ++ phrases registry rest :=
  h.isSpoken.exists_phrases.1 rest

theorem Items.phrases_append
    {started : Bool}
    {words : List String}
    {filters : List Filter}
    {sorts : List SortKey}
    (h : Items registry now started words filters sorts)
    (rest : List String) :
    phrases registry (words ++ rest) =
      phrases registry words ++ phrases registry rest :=
  h.isSpoken.exists_phrases.1 rest

theorem Terms.phrases_append
    {words : List String}
    {filters : List Filter}
    {sorts : List SortKey}
    (h : Terms registry now words filters sorts)
    (rest : List String) :
    phrases registry (words ++ rest) =
      phrases registry words ++ phrases registry rest :=
  h.isSpoken.exists_phrases.1 rest

theorem isSign_of_isNegation
    {word : String}
    (hWord : IsNegation word) : IsSign word :=
  .inr (.inr (.inl hWord))

theorem isSign_of_isConjunction
    {word : String}
    (hWord : IsConjunction word) : IsSign word :=
  .inr (.inr (.inr (.inl hWord)))

theorem isSign_of_isDisjunction
    {word : String}
    (hWord : IsDisjunction word) : IsSign word :=
  .inr (.inr (.inr (.inr hWord)))

------------------------------------------------------------
-- Operators At The End
------------------------------------------------------------

/-
  Whether phrases end with a word whose operand has to follow
  at once: a negation or a conjunction.
-/
def AsksOperand
    (spoken : List (List String))
    (operator : String) : Prop :=
  (IsNegation operator ∨ IsConjunction operator) ∧
    spoken.getLast? = some [operator]

variable {front behind : List (List String)}
variable {operator : String}

/-
  Where phrases are parted in two ways, the front of one is
  a beginning of the other's.
-/
theorem exists_boundary
    {spoken others : List (List String)}
    (hPhrases : spoken ++ others = front ++ behind) :
    (∃ between,
      spoken = front ++ between ∧
        behind = between ++ others) ∨
      ∃ between,
        between ≠ [] ∧ front = spoken ++ between ∧
          others = between ++ behind := by
  rcases List.append_eq_append_iff.1 hPhrases with
    ⟨between, hFront, hOthers⟩ | ⟨between, hSpoken, hBehind⟩
  · by_cases hNone : between = []
    · subst hNone
      rw [List.append_nil] at hFront
      exact .inl ⟨[], by rw [hFront, List.append_nil],
        hOthers.symm⟩
    · exact .inr ⟨between, hNone, hFront, hOthers⟩
  · exact .inl ⟨between, hSpoken, hBehind⟩

namespace AsksOperand

theorem append
    {spoken : List (List String)}
    {operator : String}
    (front : List (List String))
    (h : AsksOperand spoken operator) :
    AsksOperand (front ++ spoken) operator := by
  refine ⟨h.1, ?_⟩
  rw [List.getLast?_append, h.2]
  rfl

/- What stands behind something else still asks. -/
theorem of_append
    {front spoken : List (List String)}
    {operator : String}
    (h : AsksOperand (front ++ spoken) operator)
    (hSome : spoken ≠ []) :
    AsksOperand spoken operator := by
  refine ⟨h.1, ?_⟩
  have hLast := h.2
  rw [List.getLast?_append,
    List.getLast?_eq_some_getLast hSome] at hLast
  rw [List.getLast?_eq_some_getLast hSome]
  exact hLast

theorem ne_nil
    (h : AsksOperand front operator) : front ≠ [] := by
  rintro rfl
  exact nomatch h.2

/- The operator is the first phrase or stands behind it. -/
theorem cons_cases
    {phrase : List String}
    {others : List (List String)}
    (h : AsksOperand front operator)
    (hPhrases : phrase :: others = front ++ behind) :
    phrase = [operator] ∧ front = [phrase] ∨
      ∃ inner,
        front = phrase :: inner ∧
          others = inner ++ behind ∧
            AsksOperand inner operator := by
  cases front with
  | nil => exact absurd rfl h.ne_nil
  | cons first inner =>
      rcases List.cons.inj hPhrases with ⟨rfl, hOthers⟩
      by_cases hNone : inner = []
      · subst hNone
        exact .inl ⟨Option.some.inj h.2, rfl⟩
      · have hInner : AsksOperand inner operator :=
          @of_append [phrase] _ _ h hNone
        exact .inr ⟨inner, rfl, hOthers, hInner⟩

/- The operator is the phrase if there is no other. -/
theorem eq_of_singleton
    {phrase : List String}
    (h : AsksOperand front operator)
    (hPhrase : [phrase] = front ++ behind) :
    phrase = [operator] := by
  rcases h.cons_cases hPhrase with
    ⟨hFirst, -⟩ | ⟨inner, -, hNone, hInner⟩
  · exact hFirst
  · rcases List.append_eq_nil_iff.1 hNone.symm with ⟨rfl, -⟩
    exact absurd rfl hInner.ne_nil

/- Other words than operators take no operand. -/
theorem elim_of_classify
    (registry : Registry)
    {token : Token}
    (h : AsksOperand front operator)
    (hToken : registry.classify operator = token)
    (hNegation : token ≠ .negation)
    (hConjunction : token ≠ .conjunction) : False := by
  rcases h.1 with hWord | hWord
  · exact hNegation
      (hToken.symm.trans (classify_eq_negation_iff.2 hWord))
  · exact hConjunction
      (hToken.symm.trans
        (classify_eq_conjunction_iff.2 hWord))

/-
  The operator ends a beginning of the first phrases, or one
  of those behind them.
-/
theorem append_cases
    {spoken others : List (List String)}
    (h : AsksOperand front operator)
    (hPhrases : spoken ++ others = front ++ behind) :
    (∃ between, spoken = front ++ between) ∨
      ∃ between,
        front = spoken ++ between ∧
          others = between ++ behind ∧
            AsksOperand between operator := by
  rcases exists_boundary hPhrases with
    ⟨between, hSpoken, -⟩ | ⟨between, hSome, rfl, hOthers⟩
  · exact .inl ⟨between, hSpoken⟩
  · exact .inr ⟨between, rfl, hOthers, h.of_append hSome⟩

end AsksOperand

/- The first word of some phrases is that of all of them. -/
theorem exists_flatten_eq_cons
    {word : String}
    {words : List String}
    (hPhrases :
      phrases registry (word :: words) = front ++ behind)
    (hFront : front ≠ []) :
    ∃ used, front.flatten = word :: used := by
  cases front with
  | nil => exact absurd rfl hFront
  | cons first front =>
      rcases List.cons.inj hPhrases with ⟨rfl, -⟩
      exact ⟨_, rfl⟩

------------------------------------------------------------
-- Refusal
------------------------------------------------------------

theorem readFactor_negation_of_not_atFactor
    {fuel : Nat}
    {word : String}
    {rest : List String}
    (hWord : IsNegation word)
    (hRest : atFactor registry rest = false) :
    readFactor registry now (fuel + 1) word rest =
      .error (.missingOperand word) := by
  cases rest with
  | nil =>
      simp only [readFactor, classify_eq_negation_iff.2 hWord]
  | cons next others =>
      have hNext :
          (registry.classify next).beginsFactor = false :=
        hRest
      simp only [readFactor, hNext,
        classify_eq_negation_iff.2 hWord]
      rfl

theorem readTerm_conjunction_of_not_atFactor
    {fuel : Nat}
    {started : Bool}
    {word : String}
    {rest : List String}
    (hWord : IsConjunction word)
    (hRest : atFactor registry rest = false) :
    readTerm registry now (fuel + 1) started
        (word :: rest) =
      .error (.missingOperand word) := by
  rw [readTerm, classify_eq_conjunction_iff.2 hWord, hRest,
    Bool.and_false]
  rfl

/-
  Whether reading terms ends with a fault, which arises in
  the first of them or in the alternatives behind it.
-/
def RefusesTerms
    (registry : Registry)
    (now : Int64)
    (fuel : Nat)
    (args : List String)
    (fault : ExpressionFault) : Prop :=
  readTerm registry now fuel false args = .error fault ∨
    ∃ first term,
      readTerm registry now fuel false args = .ok first ∧
      Filter.all first.value = some term ∧
      readAlternatives registry now fuel true first.rest =
        .error fault

variable {fuel : Nat} {rest : List String}
variable {fault : ExpressionFault}

theorem RefusesTerms.readExpression_eq
    (h : RefusesTerms registry now fuel rest fault) :
    readExpression registry now (fuel + 1) rest =
      .error fault := by
  rcases h with hFirst | ⟨first, term, hFirst, hTerm, hOthers⟩
  · simp only [readExpression, hFirst, bind, Except.bind]
  · simp only [readExpression, hFirst, bind, Except.bind,
      hTerm, Option.isSome_some, hOthers]

theorem RefusesTerms.readAlternatives_eq
    {word : String}
    (hWord : IsDisjunction word)
    (h : RefusesTerms registry now fuel rest fault) :
    readAlternatives registry now (fuel + 1) true
        (word :: rest) =
      .error fault := by
  simp only [readAlternatives,
    classify_eq_disjunction_iff.2 hWord, if_true]
  rcases h with hFirst | ⟨first, term, hFirst, hTerm, hOthers⟩
  · simp only [hFirst, bind, Except.bind]
  · simp only [hFirst, bind, Except.bind, hTerm, hOthers]

/-
  The numbers of steps below are as many as reading without a
  fault takes, since the parts in front of the operator are
  read as in an expression that is accepted.
-/
mutual

/- Inside of an operand the fault is that of the operator. -/
theorem Factor.refuses
    (fuel : Nat)
    {word : String}
    {words : List String}
    {filter : Filter}
    {sorts : List SortKey}
    {front behind : List (List String)}
    (h : Factor registry now (word :: words) filter sorts)
    (hPhrases :
      phrases registry (word :: words) = front ++ behind)
    (hAsks : AsksOperand front operator)
    (hRest : atFactor registry rest = false)
    (hFuel :
      3 * (front.flatten ++ rest).length + 1 ≤ fuel) :
    ∃ used, front.flatten = word :: used ∧
      readFactor registry now fuel word (used ++ rest) =
        .error (.missingOperand operator) := by
  match fuel with
  | 0 => omega
  | fuel + 1 =>
      cases h with
      | negation hWord hFactor =>
          rcases hFactor.begins with
            ⟨next, others, rfl, hNext⟩
          rw [phrases_sign registry
            (isSign_of_isNegation hWord)] at hPhrases
          rcases hAsks.cons_cases hPhrases with
            ⟨hFirst, rfl⟩ | ⟨inner, rfl, hInner, hAsks⟩
          · cases hFirst
            exact ⟨[], rfl,
              readFactor_negation_of_not_atFactor hWord
                hRest⟩
          · rcases hFactor.refuses fuel hInner hAsks hRest
                (by
                  simp at hFuel ⊢
                  omega) with ⟨used, hUsed, hRead⟩
            refine ⟨next :: used, by simp [hUsed], ?_⟩
            simp only [List.cons_append, readFactor,
              classify_eq_negation_iff.2 hWord, hNext, hRead]
            rfl
      | group hTerms hJoined =>
          change phrases registry ("(" :: (_ ++ [")"])) = _
            at hPhrases
          rw [phrases_sign registry (.inl rfl),
            hTerms.phrases_append,
            phrases_sign registry (.inr (.inl rfl))]
            at hPhrases
          rcases hAsks.cons_cases hPhrases with
            ⟨hFirst, -⟩ | ⟨inner, rfl, hInner, hAsks⟩
          · cases hFirst
            exact (hAsks.elim_of_classify registry
              (classify_eq_opening_iff.2 rfl)
              nofun nofun).elim
          · rcases hAsks.append_cases hInner with
              ⟨between, hInner⟩ |
                ⟨between, -, hClosing, hAsks⟩
            · have hRead := hTerms.refuses_expression fuel
                hInner hAsks hRest (by
                  simp at hFuel ⊢
                  omega)
              refine ⟨inner.flatten, rfl, ?_⟩
              simp only [readFactor,
                classify_eq_opening_iff.2 rfl, hRead]
              rfl
            · cases hAsks.eq_of_singleton hClosing
              exact (hAsks.elim_of_classify registry
                (classify_eq_closing_iff.2 rfl)
                nofun nofun).elim
      | predicate hOffers hArity hBuild =>
          rw [phrases_predicate hOffers hArity] at hPhrases
          cases hAsks.eq_of_singleton hPhrases
          exact (hAsks.elim_of_classify registry
            (classify_eq_predicate_iff.2 hOffers)
            nofun nofun).elim

/- Among items the fault is that of the operator. -/
theorem Items.refuses
    (fuel : Nat)
    {started : Bool}
    {words : List String}
    {filters : List Filter}
    {sorts : List SortKey}
    {front behind : List (List String)}
    (h : Items registry now started words filters sorts)
    (hPhrases : phrases registry words = front ++ behind)
    (hAsks : AsksOperand front operator)
    (hRest : atFactor registry rest = false)
    (hFuel :
      3 * (front.flatten ++ rest).length + 2 ≤ fuel) :
    readTerm registry now fuel started
        (front.flatten ++ rest) =
      .error (.missingOperand operator) := by
  match fuel with
  | 0 => omega
  | fuel + 1 =>
      cases h with
      | nil =>
          rcases List.append_eq_nil_iff.1 hPhrases.symm with
            ⟨rfl, -⟩
          exact absurd rfl hAsks.ne_nil
      | sort hWord hField hItems =>
          rw [phrases_directive registry hWord] at hPhrases
          rcases hAsks.cons_cases hPhrases with
            ⟨hFirst, -⟩ | ⟨inner, rfl, hInner, hAsks⟩
          · exact nomatch hFirst
          · have hOthers := hItems.refuses fuel hInner hAsks
              hRest (by
                simp at hFuel ⊢
                omega)
            simp only [List.flatten_cons, List.cons_append,
              List.nil_append, readTerm,
              classify_eq_sort_iff.2 hWord,
              readSort_title hField]
            simp only [bind, Except.bind, hOthers]
      | @factor _ _ others _ _ _ _ hFactor hItems =>
          rcases hFactor.begins with
            ⟨word, words, rfl, hWord⟩
          rw [hFactor.phrases_append] at hPhrases
          rcases hAsks.append_cases hPhrases with
            ⟨between, hInner⟩ |
              ⟨between, rfl, hOthers, hAsks⟩
          · rcases hFactor.refuses fuel hInner hAsks hRest
                (by omega) with ⟨used, hUsed, hRead⟩
            rw [hUsed, List.cons_append,
              readTerm_of_beginsFactor hWord, hRead]
            rfl
          · rw [List.flatten_append, flatten_phrases,
              List.append_assoc] at hFuel ⊢
            have hFirst := readFactor_of_factor fuel
              (between.flatten ++ rest) hFactor (by
                simp at hFuel ⊢
                omega)
            have hRead := hItems.refuses fuel hOthers hAsks
              hRest (by
                simp at hFuel ⊢
                omega)
            rw [List.cons_append,
              readTerm_of_beginsFactor hWord, hFirst]
            simp only [bind, Except.bind, hRead]
      | conjunction hWord hFactor hItems =>
          rw [phrases_sign registry
            (isSign_of_isConjunction hWord)] at hPhrases
          rcases hAsks.cons_cases hPhrases with
            ⟨hFirst, rfl⟩ | ⟨inner, rfl, hInner, hAsks⟩
          · cases hFirst
            exact readTerm_conjunction_of_not_atFactor hWord
              hRest
          · have hPlain : Items registry now true _ _ _ :=
              .factor hFactor hItems
            have hRead := hPlain.refuses fuel hInner hAsks
              hRest (by
                simp at hFuel ⊢
                omega)
            rcases hFactor.begins with
              ⟨next, others, rfl, hNext⟩
            rcases exists_flatten_eq_cons hInner hAsks.ne_nil
              with ⟨used, hUsed⟩
            rw [hUsed, List.cons_append] at hRead
            rw [List.flatten_cons, hUsed]
            simp only [List.cons_append, List.nil_append,
              readTerm, classify_eq_conjunction_iff.2 hWord,
              atFactor, hNext, hRead]
            rfl

/-
  Among terms the fault arises in the first term or in the
  alternatives behind it.
-/
theorem Terms.refuses
    (fuel : Nat)
    {words : List String}
    {filters : List Filter}
    {sorts : List SortKey}
    {front behind : List (List String)}
    (h : Terms registry now words filters sorts)
    (hPhrases : phrases registry words = front ++ behind)
    (hAsks : AsksOperand front operator)
    (hRest : atFactor registry rest = false)
    (hFuel :
      3 * (front.flatten ++ rest).length + 2 ≤ fuel) :
    RefusesTerms registry now fuel (front.flatten ++ rest)
      (.missingOperand operator) := by
  match fuel with
  | 0 => omega
  | fuel + 1 =>
      cases h with
      | one hItems hJoined =>
          exact .inl
            (hItems.refuses _ hPhrases hAsks hRest hFuel)
      | more hItems hJoined hWord hTerms =>
          rw [hItems.phrases_append] at hPhrases
          rcases hAsks.append_cases hPhrases with
            ⟨between, hInner⟩ |
              ⟨between, rfl, hOthers, hAsks⟩
          · exact .inl
              (hItems.refuses _ hInner hAsks hRest hFuel)
          · rw [phrases_sign registry
              (isSign_of_isDisjunction hWord)] at hOthers
            rcases hAsks.cons_cases hOthers with
              ⟨hFirst, -⟩ | ⟨inner, rfl, hInner, hAsks⟩
            · cases hFirst
              exact (hAsks.elim_of_classify registry
                (classify_eq_disjunction_iff.2 hWord)
                nofun nofun).elim
            · rw [List.flatten_append, flatten_phrases,
                List.append_assoc] at hFuel ⊢
              have hFirst := readTerm_of_items (fuel + 1)
                (_ :: (inner.flatten ++ rest)) hItems
                (.inr ⟨_, _, rfl, hWord⟩) (by
                  simp at hFuel ⊢
                  omega)
              have hOthers := hTerms.refuses fuel hInner hAsks
                hRest (by
                  simp at hFuel ⊢
                  omega)
              exact .inr ⟨_, _, hFirst,
                all_eq_some_iff.2 hJoined,
                hOthers.readAlternatives_eq hWord⟩

/- An expression of such terms ends with the same fault. -/
theorem Terms.refuses_expression
    (fuel : Nat)
    {words : List String}
    {filters : List Filter}
    {sorts : List SortKey}
    {front behind : List (List String)}
    (h : Terms registry now words filters sorts)
    (hPhrases : phrases registry words = front ++ behind)
    (hAsks : AsksOperand front operator)
    (hRest : atFactor registry rest = false)
    (hFuel :
      3 * (front.flatten ++ rest).length + 3 ≤ fuel) :
    readExpression registry now fuel
        (front.flatten ++ rest) =
      .error (.missingOperand operator) := by
  match fuel with
  | 0 => omega
  | fuel + 1 =>
      exact (h.refuses fuel hPhrases hAsks hRest
        (by omega)).readExpression_eq

end

/- A sentence is refused that an operator ends too early. -/
theorem Sentence.refuses
    {words : List String}
    {filter : Option Filter}
    {sorts : List SortKey}
    (h : Sentence registry now words filter sorts)
    (hPhrases : phrases registry words = front ++ behind)
    (hAsks : AsksOperand front operator)
    (hRest : atFactor registry rest = false)
    (hFuel :
      3 * (front.flatten ++ rest).length + 3 ≤ fuel) :
    readExpression registry now fuel
        (front.flatten ++ rest) =
      .error (.missingOperand operator) := by
  cases h with
  | terms hTerms hJoined =>
      exact hTerms.refuses_expression fuel hPhrases hAsks
        hRest hFuel
  | directives hItems =>
      match fuel with
      | 0 => omega
      | fuel + 1 =>
          have hRead := hItems.refuses fuel hPhrases hAsks
            hRest (by omega)
          exact RefusesTerms.readExpression_eq (.inl hRead)

/-
  Where an expression asks for an operand there has to begin
  one: anything else in its place is refused with a fault
  that names the operator.
-/
theorem compile_refuses
    {words : List String}
    {filter : Option Filter}
    {sorts : List SortKey}
    (h : compile registry now words = .ok (filter, sorts))
    (hPhrases : phrases registry words = front ++ behind)
    (hAsks : AsksOperand front operator)
    (hRest : atFactor registry rest = false) :
    compile registry now (front.flatten ++ rest) =
      .error (.missingOperand operator) := by
  have hRead := (sentence_of_compile h).refuses hPhrases
    hAsks hRest (Nat.le_refl _)
  simp only [compile, Segment.read, hRead]
  rfl

end Expression

end TreeKeeper
