import TreeKeeper.Proofs.Expression.Grammar
import TreeKeeper.Proofs.Outcome

/-
  Reading an expression without actions succeeds exactly on
  the words that the grammar derives, and gives the filter
  and the sort directives of the derivation.

  Main declarations:
    * `Expression.sentence_of_readExpression`
    * `Expression.readExpression_of_sentence`
    * `Expression.compile_eq_ok_iff_sentence`
-/

------------------------------------------------------------
-- Words And Arguments
------------------------------------------------------------

namespace TreeKeeper

namespace SortKey

/- A sortable field is found by its name alone. -/
theorem field?_eq_some_iff
    {name : String}
    {field : Field} :
    field? name = some field ↔
      field ∈ fields ∧ field.title = name := by
  constructor
  · intro h
    exact ⟨List.mem_of_find?_eq_some h, by
      simpa using List.find?_some h⟩
  · rintro ⟨hMember, rfl⟩
    have hAll : ∀ f ∈ fields, field? f.title = some f := by
      decide
    exact hAll field hMember

end SortKey

namespace Expression

variable {registry : Registry} {now : Int64}

theorem readSort_eq_ok
    {word : String}
    {ascending : Bool}
    {args : List String}
    {part : Part SortKey}
    (h : readSort word ascending args = .ok part) :
    ∃ field ∈ SortKey.fields,
      args = field.title :: part.rest ∧
        part.value = ⟨field, ascending⟩ := by
  match args with
  | [] => simp [readSort] at h
  | name :: rest =>
      cases hField : SortKey.field? name with
      | none => simp [readSort, hField] at h
      | some field =>
          simp only [readSort, hField,
            Except.ok.injEq] at h
          subst h
          rcases SortKey.field?_eq_some_iff.1 hField with
            ⟨hMember, hTitle⟩
          exact ⟨field, hMember, by rw [hTitle], rfl⟩

theorem readSort_title
    {word : String}
    {ascending : Bool}
    {field : Field}
    {rest : List String}
    (hField : field ∈ SortKey.fields) :
    readSort word ascending (field.title :: rest) =
      .ok ⟨⟨field, ascending⟩, [], rest⟩ := by
  have hFound : SortKey.field? field.title = some field :=
    SortKey.field?_eq_some_iff.2 ⟨hField, rfl⟩
  simp [readSort, hFound]

theorem factor_of_readPredicate
    {word : String}
    {p : Predicate}
    {args : List String}
    {part : Part Filter}
    (hOffers : Offers registry word p)
    (h : readPredicate now word p args = .ok part) :
    ∃ used, args = used ++ part.rest ∧
      Factor registry now (word :: used) part.value
        part.sorts := by
  unfold readPredicate at h
  split at h
  · exact nomatch h
  · rename_i hLong
    rcases map_eq_ok_iff.1 h with ⟨filter, hBuild, rfl⟩
    refine ⟨args.take p.arity, by simp, ?_⟩
    apply Factor.predicate hOffers _ hBuild
    rw [List.length_take]
    omega

theorem readPredicate_append
    {word : String}
    {p : Predicate}
    {args rest : List String}
    {filter : Filter}
    (hArity : args.length = p.arity)
    (hBuild : p.build now args = .ok filter) :
    readPredicate now word p (args ++ rest) =
      .ok ⟨filter, [], rest⟩ := by
  have hTake : (args ++ rest).take p.arity = args := by
    rw [← hArity, List.take_left']
    rfl
  have hDrop : (args ++ rest).drop p.arity = rest := by
    rw [← hArity, List.drop_left']
    rfl
  have hLong : ¬ (args ++ rest).length < p.arity := by
    rw [List.length_append]
    omega
  rw [readPredicate, if_neg hLong, hTake, hDrop, hBuild]
  rfl

theorem close_eq_ok
    {inner : Part (Option Filter)}
    {part : Part Filter}
    (h : close registry inner = .ok part) :
    inner.value = some part.value ∧
      inner.sorts = part.sorts ∧
        inner.rest = ")" :: part.rest := by
  unfold close at h
  split at h
  · cases h
  · rename_i word rest hRest
    split at h
    · rename_i hClosing
      have hWord : word = ")" :=
        classify_eq_closing_iff.1 hClosing
      split at h
      · rename_i filter hValue
        cases h
        exact ⟨hValue, rfl, by rw [hRest, hWord]⟩
      · cases h
    · cases h

theorem close_closing
    (registry : Registry)
    {filter : Filter}
    {sorts : List SortKey}
    {rest : List String} :
    close registry ⟨some filter, sorts, ")" :: rest⟩ =
      .ok ⟨filter, sorts, rest⟩ := by
  have hClosing : registry.classify ")" = .closing :=
    classify_eq_closing_iff.2 rfl
  simp [close, hClosing]

------------------------------------------------------------
-- Soundness
------------------------------------------------------------

/- Where an operand begins, a term is read as an operand. -/
theorem readTerm_of_beginsFactor
    {fuel : Nat}
    {started : Bool}
    {word : String}
    {rest : List String}
    (hWord : (registry.classify word).beginsFactor = true) :
    readTerm registry now (fuel + 1) started
        (word :: rest) = (do
      let factor ← readFactor registry now fuel word rest
      let others ←
        readTerm registry now fuel true factor.rest
      return {
        value := factor.value :: others.value
        sorts := factor.sorts ++ others.sorts
        rest := others.rest }) := by
  rw [readTerm]
  cases hToken : registry.classify word <;>
    simp_all [Token.beginsFactor]

theorem value_ne_nil_of_readTerm
    {fuel : Nat}
    {started : Bool}
    {args : List String}
    {part : Part (List Filter)}
    (hAt : atFactor registry args = true)
    (h : readTerm registry now fuel started args =
      .ok part) :
    part.value ≠ [] := by
  match fuel, args with
  | 0, _ => simp [readTerm] at h
  | _ + 1, [] => exact nomatch hAt
  | fuel + 1, word :: rest =>
      rw [readTerm_of_beginsFactor hAt] at h
      rcases bind_eq_ok_iff.1 h with ⟨factor, _, h⟩
      rcases bind_eq_ok_iff.1 h with ⟨others, _, hPart⟩
      cases hPart
      exact List.cons_ne_nil _ _

/-
  Items that start where an operand does may stand behind a
  conjunction, provided there is an operand in front.
-/
theorem items_conjunction
    {word : String}
    {words rest : List String}
    {filters : List Filter}
    {sorts : List SortKey}
    (hWord : IsConjunction word)
    (hAt : atFactor registry (words ++ rest) = true)
    (hItems : Items registry now true words filters sorts)
    (hFilters : filters ≠ []) :
    Items registry now true (word :: words) filters
      sorts := by
  cases hItems with
  | nil => exact absurd rfl hFilters
  | sort hSort _ _ =>
      rw [List.cons_append, atFactor,
        classify_eq_sort_iff.2 hSort] at hAt
      exact nomatch hAt
  | factor hFactor hOthers =>
      exact .conjunction hWord hFactor hOthers
  | conjunction hSecond _ _ =>
      rw [List.cons_append, atFactor,
        classify_eq_conjunction_iff.2 hSecond] at hAt
      exact nomatch hAt

/- Without a term in front there are no alternatives. -/
theorem readAlternatives_unstarted
    {fuel : Nat}
    {args : List String}
    {part : Part (List Filter)}
    (h : readAlternatives registry now fuel false args =
      .ok part) :
    part = ⟨[], [], args⟩ := by
  match fuel, args with
  | 0, _ => simp [readAlternatives] at h
  | _ + 1, [] =>
      cases h
      rfl
  | _ + 1, word :: rest =>
      unfold readAlternatives at h
      split at h
      · exact nomatch h
      · cases h
        rfl

theorem exists_joined
    (node : List Filter → Filter)
    (first : Filter)
    (others : List Filter) :
    ∃ filter, Joined node (first :: others) filter := by
  cases others with
  | nil => exact ⟨_, .one first⟩
  | cons second others =>
      exact ⟨_, .several first second others⟩

mutual

/- What the reader of operands accepts is an operand. -/
theorem factor_of_readFactor
    {fuel : Nat}
    {word : String}
    {args : List String}
    {part : Part Filter}
    (h : readFactor registry now fuel word args =
      .ok part) :
    ∃ used, args = used ++ part.rest ∧
      Factor registry now (word :: used) part.value
        part.sorts := by
  match fuel with
  | 0 => simp [readFactor] at h
  | fuel + 1 =>
      unfold readFactor at h
      split at h
      · rename_i hWord
        split at h
        · exact nomatch h
        · rename_i next others
          split at h
          · rcases bind_eq_ok_iff.1 h with
              ⟨inner, hInner, hPart⟩
            cases hPart
            rcases factor_of_readFactor hInner with
              ⟨used, hArgs, hFactor⟩
            refine ⟨next :: used, by simp [hArgs], ?_⟩
            exact .negation
              (classify_eq_negation_iff.1 hWord) hFactor
          · exact nomatch h
      · rename_i hWord
        rcases bind_eq_ok_iff.1 h with
          ⟨inner, hInner, hClose⟩
        rcases close_eq_ok hClose with
          ⟨hValue, hSorts, hRest⟩
        rcases sentence_of_readExpression hInner with
          ⟨used, hArgs, hSentence⟩
        rw [hValue, hSorts] at hSentence
        refine ⟨used ++ [")"], by simp [hArgs, hRest], ?_⟩
        rw [classify_eq_opening_iff.1 hWord]
        cases hSentence with
        | terms hTerms hJoined =>
            exact .group hTerms hJoined
      · rename_i p hWord
        exact factor_of_readPredicate
          (classify_eq_predicate_iff.1 hWord) h
      · exact nomatch h
      · exact nomatch h

/- What the reader of terms accepts are items. -/
theorem items_of_readTerm
    {fuel : Nat}
    {started : Bool}
    {args : List String}
    {part : Part (List Filter)}
    (h : readTerm registry now fuel started args =
      .ok part) :
    ∃ used, args = used ++ part.rest ∧
      Items registry now started used part.value
        part.sorts := by
  match fuel, args with
  | 0, _ => simp [readTerm] at h
  | fuel + 1, [] =>
      cases h
      exact ⟨[], rfl, .nil⟩
  | fuel + 1, word :: rest =>
      unfold readTerm at h
      split at h
      · cases h
        exact ⟨[], rfl, .nil⟩
      · cases h
        exact ⟨[], rfl, .nil⟩
      · cases h
        exact ⟨[], rfl, .nil⟩
      · rename_i hWord
        split at h
        · rename_i hGuard
          rw [Bool.and_eq_true] at hGuard
          rcases hGuard with ⟨rfl, hAt⟩
          rcases items_of_readTerm h with
            ⟨used, hArgs, hItems⟩
          have hFilters := value_ne_nil_of_readTerm hAt h
          refine ⟨word :: used, by simp [hArgs], ?_⟩
          rw [hArgs] at hAt
          exact items_conjunction
            (classify_eq_conjunction_iff.1 hWord) hAt hItems
            hFilters
        · exact nomatch h
      · rename_i ascending hWord
        rcases bind_eq_ok_iff.1 h with ⟨key, hKey, h⟩
        rcases bind_eq_ok_iff.1 h with
          ⟨others, hOthers, hPart⟩
        cases hPart
        rcases readSort_eq_ok hKey with
          ⟨field, hField, hArgs, hValue⟩
        rcases items_of_readTerm hOthers with
          ⟨used, hRest, hItems⟩
        refine ⟨word :: field.title :: used, ?_, ?_⟩
        · rw [hArgs, hRest]
          rfl
        · rw [hValue]
          exact .sort (classify_eq_sort_iff.1 hWord) hField
            hItems
      · rcases bind_eq_ok_iff.1 h with
          ⟨factor, hFactor, h⟩
        rcases bind_eq_ok_iff.1 h with
          ⟨others, hOthers, hPart⟩
        cases hPart
        rcases factor_of_readFactor hFactor with
          ⟨front, hArgs, hFront⟩
        rcases items_of_readTerm hOthers with
          ⟨used, hRest, hItems⟩
        refine ⟨word :: front ++ used, ?_, ?_⟩
        · rw [hArgs, hRest]
          simp
        · exact .factor hFront hItems

/-
  What the reader of alternatives accepts continues terms,
  provided there is a term in front.
-/
theorem terms_of_readAlternatives
    {fuel : Nat}
    {front args : List String}
    {filters : List Filter}
    {term : Filter}
    {inner : List SortKey}
    {part : Part (List Filter)}
    (hItems : Items registry now false front filters inner)
    (hJoined : Joined .and filters term)
    (h : readAlternatives registry now fuel true args =
      .ok part) :
    ∃ used, args = used ++ part.rest ∧
      Terms registry now (front ++ used)
        (term :: part.value) (inner ++ part.sorts) := by
  match fuel, args with
  | 0, _ => simp [readAlternatives] at h
  | fuel + 1, [] =>
      cases h
      refine ⟨[], rfl, ?_⟩
      simpa using Terms.one hItems hJoined
  | fuel + 1, word :: rest =>
      unfold readAlternatives at h
      split at h
      · rename_i hWord
        rcases bind_eq_ok_iff.1 h with ⟨next, hNext, h⟩
        split at h
        · exact nomatch h
        · rename_i second hSecond
          rcases bind_eq_ok_iff.1 h with
            ⟨others, hOthers, hPart⟩
          cases hPart
          rcases items_of_readTerm hNext with
            ⟨middle, hRest, hMiddle⟩
          rcases terms_of_readAlternatives hMiddle
              (all_eq_some_iff.1 hSecond) hOthers with
            ⟨used, hBehind, hTerms⟩
          refine ⟨word :: (middle ++ used), ?_, ?_⟩
          · rw [hRest, hBehind]
            simp
          · exact .more hItems hJoined
              (classify_eq_disjunction_iff.1 hWord) hTerms
      · cases h
        refine ⟨[], rfl, ?_⟩
        simpa using Terms.one hItems hJoined

/- What the reader of expressions accepts is a sentence. -/
theorem sentence_of_readExpression
    {fuel : Nat}
    {args : List String}
    {part : Part (Option Filter)}
    (h : readExpression registry now fuel args =
      .ok part) :
    ∃ used, args = used ++ part.rest ∧
      Sentence registry now used part.value part.sorts := by
  match fuel with
  | 0 => simp [readExpression] at h
  | fuel + 1 =>
      unfold readExpression at h
      rcases bind_eq_ok_iff.1 h with ⟨first, hFirst, h⟩
      rcases bind_eq_ok_iff.1 h with
        ⟨others, hOthers, hPart⟩
      cases hPart
      rcases items_of_readTerm hFirst with
        ⟨front, hArgs, hFront⟩
      cases hTerm : Filter.all first.value with
      | none =>
          rw [hTerm] at hOthers
          cases readAlternatives_unstarted hOthers
          rw [all_eq_none_iff.1 hTerm] at hFront
          exact ⟨front, hArgs, by
            simpa [Filter.any] using
              Sentence.directives hFront⟩
      | some term =>
          rw [hTerm] at hOthers
          rcases terms_of_readAlternatives hFront
              (all_eq_some_iff.1 hTerm) hOthers with
            ⟨used, hRest, hTerms⟩
          refine ⟨front ++ used, by simp [hArgs, hRest], ?_⟩
          rcases exists_joined .or term others.value with
            ⟨filter, hFilter⟩
          have hAny := any_eq_some_iff.2 hFilter
          simpa [hAny] using Sentence.terms hTerms hFilter

end

------------------------------------------------------------
-- Completeness
------------------------------------------------------------

/- Where the reader of expressions stops without a fault. -/
inductive EndsTerms
    (registry : Registry) : List String → Prop
| nil : EndsTerms registry []
| closing (rest : List String) :
    EndsTerms registry (")" :: rest)
| action
    {word : String}
    (hWord : registry.classify word = .action)
    (rest : List String) :
    EndsTerms registry (word :: rest)

/- Where the reader of terms stops without a fault. -/
def EndsTerm
    (registry : Registry)
    (args : List String) : Prop :=
  EndsTerms registry args ∨
    ∃ word rest, args = word :: rest ∧ IsDisjunction word

theorem readTerm_of_endsTerm
    {fuel : Nat}
    {started : Bool}
    {args : List String}
    (hEnd : EndsTerm registry args) :
    readTerm registry now (fuel + 1) started args =
      .ok ⟨[], [], args⟩ := by
  rcases hEnd with hEnd | ⟨word, rest, rfl, hWord⟩
  · cases hEnd with
    | nil => rfl
    | closing rest =>
        simp [readTerm, classify_eq_closing_iff.2 rfl]
    | action hWord rest => simp [readTerm, hWord]
  · simp [readTerm, classify_eq_disjunction_iff.2 hWord]

theorem readAlternatives_of_endsTerms
    {fuel : Nat}
    {started : Bool}
    {args : List String}
    (hEnd : EndsTerms registry args) :
    readAlternatives registry now (fuel + 1) started args =
      .ok ⟨[], [], args⟩ := by
  cases hEnd with
  | nil => rfl
  | closing rest =>
      simp [readAlternatives, classify_eq_closing_iff.2 rfl]
  | action hWord rest => simp [readAlternatives, hWord]

theorem readAlternatives_disjunction
    {fuel : Nat}
    {word : String}
    {rest : List String}
    {next others : Part (List Filter)}
    {term : Filter}
    (hWord : IsDisjunction word)
    (hNext : readTerm registry now fuel false rest =
      .ok next)
    (hTerm : Filter.all next.value = some term)
    (hOthers :
      readAlternatives registry now fuel true next.rest =
        .ok others) :
    readAlternatives registry now (fuel + 1) true
        (word :: rest) =
      .ok ⟨term :: others.value, next.sorts ++ others.sorts,
        others.rest⟩ := by
  simp only [readAlternatives,
    classify_eq_disjunction_iff.2 hWord, if_true, hNext,
    bind, Except.bind, hTerm, hOthers]
  rfl

/- The words of an operand begin with one that tells so. -/
theorem Factor.begins
    {words : List String}
    {filter : Filter}
    {sorts : List SortKey}
    (h : Factor registry now words filter sorts) :
    ∃ word rest, words = word :: rest ∧
      (registry.classify word).beginsFactor = true := by
  cases h with
  | negation hWord _ =>
      exact ⟨_, _, rfl, by
        rw [classify_eq_negation_iff.2 hWord]
        rfl⟩
  | group _ _ =>
      exact ⟨_, _, rfl, by
        rw [classify_eq_opening_iff.2 rfl]
        rfl⟩
  | predicate hOffers _ _ =>
      exact ⟨_, _, rfl, by
        rw [classify_eq_predicate_iff.2 hOffers]
        rfl⟩

/-
  The numbers of steps below grow with the arguments left as
  those of the readers do, whatever stands behind a phrase.
-/
mutual

/- An operand is read as what it stands for. -/
theorem readFactor_of_factor
    (fuel : Nat)
    (rest : List String)
    {word : String}
    {words : List String}
    {filter : Filter}
    {sorts : List SortKey}
    (h : Factor registry now (word :: words) filter sorts)
    (hFuel : 3 * (words ++ rest).length + 4 ≤ fuel) :
    readFactor registry now fuel word (words ++ rest) =
      .ok ⟨filter, sorts, rest⟩ := by
  match fuel with
  | 0 => omega
  | fuel + 1 =>
      cases h with
      | negation hWord hFactor =>
          rcases hFactor.begins with
            ⟨next, others, rfl, hNext⟩
          have hInner := readFactor_of_factor fuel rest
            hFactor (by
              simp at hFuel ⊢
              omega)
          simp only [List.cons_append, readFactor,
            classify_eq_negation_iff.2 hWord, hNext, hInner]
          rfl
      | group hTerms hJoined =>
          have hInner := readExpression_of_terms fuel
            (")" :: rest) hTerms hJoined
            (.closing rest) (by
              simp at hFuel ⊢
              omega)
          change readFactor registry now (fuel + 1) "("
            (_ ++ [")"] ++ rest) = _
          simp only [List.append_assoc, List.cons_append,
            List.nil_append, readFactor,
            classify_eq_opening_iff.2 rfl, hInner]
          exact close_closing registry
      | predicate hOffers hArity hBuild =>
          simp only [readFactor,
            classify_eq_predicate_iff.2 hOffers]
          exact readPredicate_append hArity hBuild

/- Items are read as what they stand for. -/
theorem readTerm_of_items
    (fuel : Nat)
    (rest : List String)
    {started : Bool}
    {words : List String}
    {filters : List Filter}
    {sorts : List SortKey}
    (h : Items registry now started words filters sorts)
    (hEnd : EndsTerm registry rest)
    (hFuel : 3 * (words ++ rest).length + 2 ≤ fuel) :
    readTerm registry now fuel started (words ++ rest) =
      .ok ⟨filters, sorts, rest⟩ := by
  match fuel with
  | 0 => omega
  | fuel + 1 =>
      cases h with
      | nil => exact readTerm_of_endsTerm hEnd
      | sort hWord hField hItems =>
          have hOthers := readTerm_of_items fuel rest
            hItems hEnd (by
              simp at hFuel ⊢
              omega)
          simp only [List.cons_append, readTerm,
            classify_eq_sort_iff.2 hWord,
            readSort_title hField]
          simp only [bind, Except.bind, hOthers]
          rfl
      | @factor _ _ behind _ _ _ _ hFactor hItems =>
          rcases hFactor.begins with
            ⟨word, front, rfl, hWord⟩
          have hFirst := readFactor_of_factor fuel
            (behind ++ rest) hFactor (by
              simp at hFuel ⊢
              omega)
          have hOthers := readTerm_of_items fuel rest
            hItems hEnd (by
              simp at hFuel ⊢
              omega)
          rw [List.append_assoc, List.cons_append,
            readTerm_of_beginsFactor hWord, hFirst]
          simp only [bind, Except.bind, hOthers]
          rfl
      | conjunction hWord hFactor hItems =>
          have hPlain :
              Items registry now true _ _ _ :=
            .factor hFactor hItems
          have hBehind := readTerm_of_items fuel rest
            hPlain hEnd (by
              simp at hFuel ⊢
              omega)
          rcases hFactor.begins with
            ⟨next, front, rfl, hNext⟩
          simp only [List.cons_append] at hBehind ⊢
          simp only [readTerm,
            classify_eq_conjunction_iff.2 hWord, atFactor,
            hNext, hBehind]
          rfl

/-
  The first of several terms is read as a term, and those
  behind it as alternatives.
-/
theorem readAlternatives_of_terms
    (fuel : Nat)
    (rest : List String)
    {words : List String}
    {filters : List Filter}
    {sorts : List SortKey}
    (h : Terms registry now words filters sorts)
    (hEnd : EndsTerms registry rest)
    (hFuel : 3 * (words ++ rest).length + 2 ≤ fuel) :
    ∃ first term others,
      readTerm registry now fuel false (words ++ rest) =
        .ok first ∧
      Filter.all first.value = some term ∧
      readAlternatives registry now fuel true first.rest =
        .ok others ∧
      filters = term :: others.value ∧
      sorts = first.sorts ++ others.sorts ∧
      others.rest = rest := by
  match fuel with
  | 0 => omega
  | fuel + 1 =>
      cases h with
      | one hItems hJoined =>
          exact ⟨_, _, _,
            readTerm_of_items _ rest hItems (.inl hEnd)
              hFuel,
            all_eq_some_iff.2 hJoined,
            readAlternatives_of_endsTerms hEnd, rfl, by simp,
            rfl⟩
      | more hItems hJoined hWord hTerms =>
          rcases readAlternatives_of_terms fuel rest hTerms
              hEnd (by
                simp at hFuel ⊢
                omega) with
            ⟨second, term, others, hSecond, hTerm, hOthers,
              rfl, rfl, rfl⟩
          have hFirst := readTerm_of_items (fuel + 1)
            (_ :: (_ ++ others.rest)) hItems
            (.inr ⟨_, _, rfl, hWord⟩) (by
              simp at hFuel ⊢
              omega)
          rw [List.append_assoc, List.cons_append]
          exact ⟨_, _, _, hFirst,
            all_eq_some_iff.2 hJoined,
            readAlternatives_disjunction hWord hSecond hTerm
              hOthers, rfl, rfl, rfl⟩

/- Terms are read as the filter that joins them. -/
theorem readExpression_of_terms
    (fuel : Nat)
    (rest : List String)
    {words : List String}
    {filters : List Filter}
    {filter : Filter}
    {sorts : List SortKey}
    (h : Terms registry now words filters sorts)
    (hJoined : Joined .or filters filter)
    (hEnd : EndsTerms registry rest)
    (hFuel : 3 * (words ++ rest).length + 3 ≤ fuel) :
    readExpression registry now fuel (words ++ rest) =
      .ok ⟨some filter, sorts, rest⟩ := by
  match fuel with
  | 0 => omega
  | fuel + 1 =>
      rcases readAlternatives_of_terms fuel rest h hEnd
          (by omega) with
        ⟨first, term, others, hFirst, hTerm, hOthers, rfl,
          rfl, rfl⟩
      have hAny := any_eq_some_iff.2 hJoined
      simp only [readExpression, hFirst, bind, Except.bind,
        hTerm, Option.isSome_some, hOthers]
      simp [hAny, pure, Except.pure]

end

/- A sentence is read up to where the reader has to stop. -/
theorem readExpression_of_sentence
    {fuel : Nat}
    {words rest : List String}
    {filter : Option Filter}
    {sorts : List SortKey}
    (h : Sentence registry now words filter sorts)
    (hEnd : EndsTerms registry rest)
    (hFuel : 3 * (words ++ rest).length + 3 ≤ fuel) :
    readExpression registry now fuel (words ++ rest) =
      .ok ⟨filter, sorts, rest⟩ := by
  cases h with
  | terms hTerms hJoined =>
      exact readExpression_of_terms fuel rest hTerms hJoined
        hEnd hFuel
  | directives hItems =>
      match fuel with
      | 0 => omega
      | fuel + 1 =>
          have hFirst := readTerm_of_items fuel rest hItems
            (.inl hEnd) (by omega)
          match fuel with
          | 0 => omega
          | fuel + 1 =>
              simp only [readExpression, hFirst]
              simp [bind, Except.bind,
                readAlternatives_of_endsTerms hEnd,
                Filter.all, Filter.any, pure, Except.pure]

------------------------------------------------------------
-- Whole Expressions
------------------------------------------------------------

theorem sentence_of_compile
    {args : List String}
    {filter : Option Filter}
    {sorts : List SortKey}
    (h : compile registry now args = .ok (filter, sorts)) :
    Sentence registry now args filter sorts := by
  rcases bind_eq_ok_iff.1 h with ⟨segment, hSegment, h⟩
  rcases bind_eq_ok_iff.1 hSegment with
    ⟨part, hPart, hSegment⟩
  rcases sentence_of_readExpression hPart with
    ⟨used, hArgs, hSentence⟩
  split at hSegment
  · rename_i hRest
    cases hSegment
    cases h
    rw [hArgs, hRest, List.append_nil]
    exact hSentence
  · split at hSegment
    · -- An action behind the expression is refused.
      rcases bind_eq_ok_iff.1 hSegment with
        ⟨action, _, hSegment⟩
      cases hSegment
      exact nomatch h
    · exact nomatch hSegment

theorem compile_of_sentence
    {args : List String}
    {filter : Option Filter}
    {sorts : List SortKey}
    (h : Sentence registry now args filter sorts) :
    compile registry now args = .ok (filter, sorts) := by
  have hRead :=
    readExpression_of_sentence h .nil (Nat.le_refl _)
  rw [List.append_nil] at hRead
  simp only [compile, Segment.read, hRead]
  rfl

/-
  Reading succeeds exactly on the words that the grammar
  derives, with the filter and the sort directives that the
  derivation gives.
-/
theorem compile_eq_ok_iff_sentence
    (registry : Registry)
    (now : Int64)
    (args : List String)
    (filter : Option Filter)
    (sorts : List SortKey) :
    compile registry now args = .ok (filter, sorts) ↔
      Sentence registry now args filter sorts := by
  constructor
  · exact sentence_of_compile
  · exact compile_of_sentence

end Expression

end TreeKeeper
