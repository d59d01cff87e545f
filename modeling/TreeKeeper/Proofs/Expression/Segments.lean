import TreeKeeper.Proofs.Expression.Reading

/-
  Segments of arguments: an expression up to the action that
  is asked for behind it.  A segment is read exactly if its
  words are those of a sentence and of a request, whatever
  stands behind them, and its reading takes no word more.

  Key definitions include:
    * `Expression.Requests`

  Main declarations:
    * `Segment.read_of_sentence`
    * `Segment.read_of_requests`
    * `Segment.cases_of_read`
-/

------------------------------------------------------------
-- Arguments Of Actions
------------------------------------------------------------

namespace TreeKeeper

namespace ActionArity

theorem commandLength?_append
    {args : List String}
    {n : Nat}
    (hLength : commandLength? args = some n)
    (rest : List String) :
    commandLength? (args ++ rest) = some n := by
  induction args generalizing n with
  | nil => exact nomatch hLength
  | cons arg others ih =>
      rw [List.cons_append]
      unfold commandLength? at hLength ⊢
      by_cases hEnd : arg = ";"
      · rw [if_pos hEnd] at hLength ⊢
        exact hLength
      · rw [if_neg hEnd] at hLength ⊢
        cases others with
        | nil => simp [commandLength?] at hLength
        | cons next behind =>
            -- The word behind a brace pair is still inside.
            have hHead :
                (next :: behind ++ rest).head? =
                  (next :: behind).head? := rfl
            rw [hHead]
            split at hLength
            · rename_i hPlus
              rw [if_pos hPlus]
              exact hLength
            · rename_i hPlus
              rw [if_neg hPlus]
              rcases Option.map_eq_some_iff.1 hLength with
                ⟨m, hBehind, rfl⟩
              rw [ih hBehind]
              rfl

theorem commandLength?_take
    {args : List String}
    {n : Nat}
    (hLength : commandLength? args = some n) :
    n ≤ args.length ∧
      commandLength? (args.take n) = some n := by
  induction args generalizing n with
  | nil => exact nomatch hLength
  | cons arg others ih =>
      unfold commandLength? at hLength
      by_cases hEnd : arg = ";"
      · rw [if_pos hEnd] at hLength
        cases hLength
        simp [commandLength?, hEnd]
      · rw [if_neg hEnd] at hLength
        split at hLength
        · rename_i hPlus
          cases hLength
          rcases hPlus with ⟨rfl, hHead⟩
          cases others with
          | nil => exact nomatch hHead
          | cons next behind =>
              cases hHead
              simp [commandLength?]
        · rename_i hPlus
          rcases Option.map_eq_some_iff.1 hLength with
            ⟨m, hBehind, rfl⟩
          rcases ih hBehind with ⟨hBound, hTake⟩
          have hHead :
              ¬ (arg = "\x7b\x7d" ∧
                (others.take m).head? = some "+") := by
            rintro ⟨hBraces, hNext⟩
            apply hPlus
            refine ⟨hBraces, ?_⟩
            cases others with
            | nil => simp at hNext
            | cons next behind =>
                cases m with
                | zero => simp at hNext
                | succ m => exact hNext
          refine ⟨Nat.succ_le_succ hBound, ?_⟩
          rw [List.take_succ_cons]
          unfold commandLength?
          rw [if_neg hEnd, if_neg hHead, hTake]
          rfl

/- An action takes its arguments whatever follows them. -/
theorem count?_append
    {arity : ActionArity}
    {args : List String}
    (hCount : arity.count? args = some args.length)
    (rest : List String) :
    arity.count? (args ++ rest) = some args.length := by
  cases arity with
  | fixed n =>
      have hFixed : n ≤ args.length ∧ n = args.length := by
        simpa [count?] using hCount
      simp [count?, hFixed.2]
  | command => exact commandLength?_append hCount rest

/- What an action takes are its arguments. -/
theorem count?_take
    {arity : ActionArity}
    {args : List String}
    {n : Nat}
    (hCount : arity.count? args = some n) :
    n ≤ args.length ∧ arity.count? (args.take n) = some n := by
  cases arity with
  | fixed m =>
      have hFixed : m ≤ args.length ∧ m = n := by
        simpa [count?] using hCount
      rcases hFixed with ⟨hBound, rfl⟩
      simp [count?, hBound]
  | command => exact commandLength?_take hCount

end ActionArity

------------------------------------------------------------
-- Requests
------------------------------------------------------------

namespace Expression

/-
  The words of a request: the name of an action that is known
  and exactly the arguments that it takes.
-/
inductive Requests
    (registry : Registry) :
    List String → ActionRequest → Prop
| intro
    {name : String}
    {args : List String}
    {arity : ActionArity}
    (hName : registry.classify name = .action)
    (hArity : ActionArity.ofName? name = some arity)
    (hCount : arity.count? args = some args.length) :
    Requests registry (name :: args) ⟨name, args⟩

end Expression

namespace Segment

open Expression

variable {registry : Registry} {now : Int64}

theorem readAction_append
    {name : String}
    {args : List String}
    {arity : ActionArity}
    (hArity : ActionArity.ofName? name = some arity)
    (hCount : arity.count? args = some args.length)
    (rest : List String) :
    readAction name (args ++ rest) =
      .ok (⟨name, args⟩, rest) := by
  have hBehind := ActionArity.count?_append hCount rest
  simp [readAction, hArity, hBehind]

theorem requests_of_readAction
    {name : String}
    {args rest : List String}
    {request : ActionRequest}
    (hName : registry.classify name = .action)
    (hRead : readAction name args = .ok (request, rest)) :
    ∃ words,
      name :: args = words ++ rest ∧
        Requests registry words request := by
  unfold readAction at hRead
  split at hRead
  · exact nomatch hRead
  · rename_i arity hArity
    split at hRead
    · exact nomatch hRead
    · rename_i n hCount
      cases hRead
      rcases ActionArity.count?_take hCount with
        ⟨hBound, hTake⟩
      refine ⟨name :: args.take n, by simp, ?_⟩
      apply Requests.intro hName hArity
      rw [List.length_take_of_le hBound]
      exact hTake

------------------------------------------------------------
-- Reading
------------------------------------------------------------

/- An expression without an action is read up to its end. -/
theorem read_of_sentence
    {words : List String}
    {filter : Option Filter}
    {sorts : List SortKey}
    (hWords : Sentence registry now words filter sorts) :
    Segment.read registry now words =
      .ok ⟨filter, sorts, none, []⟩ := by
  have hRead :=
    readExpression_of_sentence hWords .nil (Nat.le_refl _)
  rw [List.append_nil] at hRead
  unfold Segment.read
  rw [hRead]
  rfl

/- An expression with an action is read up to the action. -/
theorem read_of_requests
    {front words : List String}
    {filter : Option Filter}
    {sorts : List SortKey}
    {request : ActionRequest}
    (hFront : Sentence registry now front filter sorts)
    (hWords : Requests registry words request)
    (rest : List String) :
    Segment.read registry now (front ++ (words ++ rest)) =
      .ok ⟨filter, sorts, some request, rest⟩ := by
  cases hWords with
  | @intro name args arity hName hArity hCount =>
      have hRead :=
        readExpression_of_sentence hFront
          (.action hName (args ++ rest)) (Nat.le_refl _)
      have hAction := readAction_append hArity hCount rest
      unfold Segment.read
      rw [List.cons_append, hRead, bind_ok]
      simp [hName, hAction, bind, Except.bind, pure,
        Except.pure]

/-
  A segment that is read is a sentence up to the end of the
  arguments or a sentence with a request behind it.
-/
theorem cases_of_read
    {args : List String}
    {segment : Segment}
    (hRead : Segment.read registry now args = .ok segment) :
    (segment.action = none ∧
      Sentence registry now args segment.filter
        segment.sorts) ∨
    ∃ front words request,
      segment.action = some request ∧
      args = front ++ (words ++ segment.rest) ∧
      Sentence registry now front segment.filter
        segment.sorts ∧
      Requests registry words request := by
  rcases bind_eq_ok_iff.1 hRead with ⟨part, hPart, hRead⟩
  rcases sentence_of_readExpression hPart with
    ⟨front, hArgs, hFront⟩
  split at hRead
  · rename_i hRest
    cases hRead
    rw [hRest, List.append_nil] at hArgs
    rw [hArgs]
    exact .inl ⟨rfl, hFront⟩
  · rename_i name behind hRest
    split at hRead
    · rename_i hName
      rcases bind_eq_ok_iff.1 hRead with
        ⟨⟨request, rest⟩, hAction, hRead⟩
      cases hRead
      rcases requests_of_readAction hName hAction with
        ⟨words, hWords, hRequests⟩
      refine .inr ⟨front, words, request, rfl, ?_, hFront,
        hRequests⟩
      rw [hArgs, hRest, hWords]
    · cases hRead

/- The words behind an action are fewer than all words. -/
theorem length_rest_of_read
    {args : List String}
    {segment : Segment}
    {request : ActionRequest}
    (hRead : Segment.read registry now args = .ok segment)
    (hAction : segment.action = some request) :
    segment.rest.length < args.length := by
  rcases cases_of_read hRead with
    ⟨hNone, _⟩ | ⟨front, words, _, _, hArgs, _, hWords⟩
  · exact nomatch hNone.symm.trans hAction
  · cases hWords
    rw [hArgs]
    simp
    omega

------------------------------------------------------------
-- Operators Behind Actions
------------------------------------------------------------

theorem resume?_disjunction
    {word : String}
    (hWord : IsDisjunction word)
    (rest : List String) :
    resume? registry (word :: rest) = some (true, rest) := by
  simp [resume?, classify_eq_disjunction_iff.2 hWord]

theorem resume?_conjunction
    {word : String}
    (hWord : IsConjunction word)
    (rest : List String) :
    resume? registry (word :: rest) = some (false, rest) := by
  simp [resume?, classify_eq_conjunction_iff.2 hWord]

theorem resume?_of_not_operator
    {word : String}
    (hConjunction : ¬ IsConjunction word)
    (hDisjunction : ¬ IsDisjunction word)
    (rest : List String) :
    resume? registry (word :: rest) = none := by
  unfold resume?
  dsimp only
  split
  · rename_i hWord
    exact absurd (classify_eq_disjunction_iff.1 hWord)
      hDisjunction
  · rename_i hWord
    exact absurd (classify_eq_conjunction_iff.1 hWord)
      hConjunction
  · rfl

end Segment

end TreeKeeper
