import TreeKeeper.Proofs.Expression.Segments
import TreeKeeper.Proofs.Search.Plan

/-
  Planning without a limit on steps.  Each action takes a
  word at least, so the limit of a plan is never reached, and
  a plan follows from what is read next: a segment, and the
  operator behind its action.

  Key definitions include:
    * `Search.planIn`
    * `Search.planBehind`

  Main declarations:
    * `Search.cases_of_sequel`
    * `Search.planFrom_eq_planFrom`
    * `Search.planIn_of_action`
-/

------------------------------------------------------------
-- What Comes Behind An Action
------------------------------------------------------------

namespace TreeKeeper

namespace Search

open Expression

variable {registry : Registry} {now : Int64}
variable {scope : Scope} {word : String}
variable {rest : List String}

theorem sequel_disjunction_nil
    (hWord : IsDisjunction word) :
    sequel registry scope [word] =
      .failed (.expression (.missingOperand word)) := by
  simp [sequel, Segment.resume?_disjunction hWord]

theorem sequel_disjunction
    (hWord : IsDisjunction word)
    (hRest : rest ≠ []) :
    sequel registry scope (word :: rest) =
      match scope.next? with
      | none => .finished
      | some next => .more next rest := by
  cases rest with
  | nil => exact absurd rfl hRest
  | cons second others =>
      cases hNext : scope.next? with
      | none =>
          simp [sequel, Segment.resume?_disjunction hWord,
            hNext]
      | some next =>
          simp [sequel, Segment.resume?_disjunction hWord,
            hNext]

theorem sequel_conjunction_nil
    (hWord : IsConjunction word) :
    sequel registry scope [word] = .finished := by
  simp [sequel, Segment.resume?_conjunction hWord]

theorem sequel_conjunction
    (hWord : IsConjunction word)
    (hRest : rest ≠ []) :
    sequel registry scope (word :: rest) =
      .more scope rest := by
  cases rest with
  | nil => exact absurd rfl hRest
  | cons second others =>
      simp [sequel, Segment.resume?_conjunction hWord]

theorem sequel_of_not_operator
    (hConjunction : ¬ IsConjunction word)
    (hDisjunction : ¬ IsDisjunction word)
    (rest : List String) :
    sequel registry scope (word :: rest) =
      .more scope (word :: rest) := by
  simp [sequel, Segment.resume?_of_not_operator hConjunction
    hDisjunction]

/-
  Reading goes on behind a disjunction with what the group
  did not match, behind a conjunction, or right behind the
  action.
-/
theorem cases_of_sequel
    {later : Scope}
    {args : List String}
    (hSequel :
      sequel registry scope args = .more later rest) :
    ∃ word others,
      args = word :: others ∧
      (rest = others ∧ scope.next? = some later ∨
        rest = others ∧ later = scope ∨
        rest = args ∧ later = scope) := by
  cases args with
  | nil => exact nomatch hSequel
  | cons word others =>
      refine ⟨word, others, rfl, ?_⟩
      by_cases hDisjunction : IsDisjunction word
      · by_cases hOthers : others = []
        · rw [hOthers,
            sequel_disjunction_nil hDisjunction] at hSequel
          exact nomatch hSequel
        · rw [sequel_disjunction hDisjunction hOthers]
            at hSequel
          split at hSequel
          · exact nomatch hSequel
          · rename_i hNext
            cases hSequel
            exact .inl ⟨rfl, hNext⟩
      · by_cases hConjunction : IsConjunction word
        · by_cases hOthers : others = []
          · rw [hOthers,
              sequel_conjunction_nil hConjunction] at hSequel
            exact nomatch hSequel
          · rw [sequel_conjunction hConjunction hOthers]
              at hSequel
            cases hSequel
            exact .inr (.inl ⟨rfl, rfl⟩)
        · rw [sequel_of_not_operator hConjunction
            hDisjunction] at hSequel
          cases hSequel
          exact .inr (.inr ⟨rfl, rfl⟩)

/- What is read next is no longer than what was left. -/
theorem length_of_sequel
    {later : Scope}
    {args : List String}
    (hSequel :
      sequel registry scope args = .more later rest) :
    rest.length ≤ args.length := by
  rcases cases_of_sequel hSequel with
    ⟨word, others, rfl, ⟨rfl, _⟩ | ⟨rfl, _⟩ | ⟨rfl, _⟩⟩
  · exact Nat.le_succ _
  · exact Nat.le_succ _
  · exact Nat.le_refl _

------------------------------------------------------------
-- Limits
------------------------------------------------------------

/- Limits above the number of arguments change nothing. -/
theorem planFrom_eq_planFrom
    {n m : Nat}
    {args : List String}
    (hFirst : args.length < n)
    (hSecond : args.length < m) :
    planFrom registry now n scope args =
      planFrom registry now m scope args := by
  induction n generalizing m scope args with
  | zero => omega
  | succ n ih =>
      cases m with
      | zero => omega
      | succ m =>
          unfold planFrom
          cases hRead : Segment.read registry now args with
          | error fault => rfl
          | ok segment =>
              dsimp only
              cases hAction : segment.action with
              | none => rfl
              | some request =>
                  have hShort :=
                    Segment.length_rest_of_read hRead hAction
                  dsimp only
                  cases SearchAction.ofRequest request with
                  | error fault => rfl
                  | ok action =>
                      dsimp only
                      cases hSequel : sequel registry _
                          segment.rest with
                      | finished => rfl
                      | failed fault => rfl
                      | more later rest =>
                          have hRest :=
                            length_of_sequel hSequel
                          dsimp only
                          rw [ih (m := m) (by omega)
                            (by omega)]

/- The plan of an expression with actions in a scope. -/
def planIn
    (registry : Registry)
    (now : Int64)
    (scope : Scope)
    (args : List String) : Plan :=
  planFrom registry now (args.length + 1) scope args

/- The plan of what comes behind an action in a scope. -/
def planBehind
    (registry : Registry)
    (now : Int64)
    (scope : Scope)
    (args : List String) : Plan :=
  match sequel registry scope args with
  | .finished => {}
  | .failed fault => { fault := some fault }
  | .more later rest => planIn registry now later rest

------------------------------------------------------------
-- Planning A Segment
------------------------------------------------------------

section Segments

variable {args : List String} {segment : Segment}
variable {request : ActionRequest}
variable (scope : Scope)

theorem planIn_of_fault
    {fault : ExpressionFault}
    (hRead :
      Segment.read registry now args = .error fault) :
    planIn registry now scope args =
      { fault := some (.expression fault) } := by
  unfold planIn planFrom
  rw [hRead]

theorem planIn_of_end
    (hRead : Segment.read registry now args = .ok segment)
    (hAction : segment.action = none) :
    planIn registry now scope args =
      { deeds := (scope.extend segment).lastDeeds } := by
  unfold planIn planFrom
  rw [hRead]
  dsimp only
  rw [hAction]

theorem planIn_of_refusal
    {fault : SearchFault}
    (hRead : Segment.read registry now args = .ok segment)
    (hAction : segment.action = some request)
    (hRequest :
      SearchAction.ofRequest request = .error fault) :
    planIn registry now scope args =
      { fault := some fault } := by
  unfold planIn planFrom
  rw [hRead]
  dsimp only
  rw [hAction]
  dsimp only
  rw [hRequest]

/- An action is planned in front of what comes behind it. -/
theorem planIn_of_action
    {action : SearchAction}
    (hRead : Segment.read registry now args = .ok segment)
    (hAction : segment.action = some request)
    (hRequest :
      SearchAction.ofRequest request = .ok action) :
    planIn registry now scope args =
      (planBehind registry now
        { scope.extend segment with acted := true }
        segment.rest).behind
          ((scope.extend segment).deed action) := by
  have hShort := Segment.length_rest_of_read hRead hAction
  unfold planIn planFrom planBehind
  rw [hRead]
  dsimp only
  rw [hAction]
  dsimp only
  rw [hRequest]
  dsimp only
  cases hSequel : sequel registry
      { scope.extend segment with acted := true }
      segment.rest with
  | finished => rfl
  | failed fault => rfl
  | more later rest =>
      have hRest := length_of_sequel hSequel
      dsimp only
      rw [planFrom_eq_planFrom (by omega)
        (Nat.lt_succ_self rest.length)]
      rfl

end Segments

------------------------------------------------------------
-- Planning Behind An Action
------------------------------------------------------------

section Operators

variable (registry : Registry) (now : Int64)
variable (scope : Scope)

theorem planBehind_nil :
    planBehind registry now scope [] = {} :=
  rfl

theorem planBehind_disjunction_nil
    (hWord : IsDisjunction word) :
    planBehind registry now scope [word] =
      { fault :=
          some (.expression (.missingOperand word)) } := by
  unfold planBehind
  rw [sequel_disjunction_nil hWord]

theorem planBehind_conjunction_nil
    (hWord : IsConjunction word) :
    planBehind registry now scope [word] = {} := by
  unfold planBehind
  rw [sequel_conjunction_nil hWord]

theorem planBehind_conjunction
    (hWord : IsConjunction word)
    (hRest : rest ≠ []) :
    planBehind registry now scope (word :: rest) =
      planIn registry now scope rest := by
  unfold planBehind
  rw [sequel_conjunction hWord hRest]

theorem planBehind_disjunction
    (hWord : IsDisjunction word)
    (hRest : rest ≠ []) :
    planBehind registry now scope (word :: rest) =
      match scope.next? with
      | none => {}
      | some next => planIn registry now next rest := by
  unfold planBehind
  rw [sequel_disjunction hWord hRest]
  cases scope.next? <;> rfl

theorem planBehind_of_not_operator
    (hConjunction : ¬ IsConjunction word)
    (hDisjunction : ¬ IsDisjunction word)
    (rest : List String) :
    planBehind registry now scope (word :: rest) =
      planIn registry now scope (word :: rest) := by
  unfold planBehind
  rw [sequel_of_not_operator hConjunction hDisjunction]

end Operators

end Search

end TreeKeeper
