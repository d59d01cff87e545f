import TreeKeeper.Proofs.Search.Commands

/-
  Arguments whose expression is read without a fault.  They
  are the words of a command as far as they are read, and the
  words behind may be anything: behind an action that is not
  there yet, and behind a disjunction whose group matches
  everything.

  Key definitions include:
    * `Search.Readable`
    * `Search.Plan.IsFaulty`

  Main declarations:
    * `SearchAction.fault_of_ofRequest`
    * `Search.planIn_readable_iff`
    * `Search.readable_of_command`
-/

------------------------------------------------------------
-- Refused Requests
------------------------------------------------------------

namespace TreeKeeper

namespace SearchAction

theorem expression_of_argument
    {request : ActionRequest}
    {index : Nat}
    {fault : SearchFault}
    (hArgument : argument request index = .error fault) :
    ∃ cause, fault = .expression cause := by
  unfold argument at hArgument
  split at hArgument
  · exact nomatch hArgument
  · cases hArgument
    exact ⟨_, rfl⟩

theorem expression_of_formatArgument
    {request : ActionRequest}
    {index : Nat}
    {fault : SearchFault}
    (hArgument :
      formatArgument request index = .error fault) :
    ∃ cause, fault = .expression cause := by
  rcases bind_eq_error_iff.1 hArgument with
    hText | ⟨text, _, hFormat⟩
  · exact expression_of_argument hText
  · split at hFormat
    · exact nomatch hFormat
    · cases hFormat
      exact ⟨_, rfl⟩

theorem expression_of_writeFile
    {request : ActionRequest}
    {rendering : Except SearchFault Rendering}
    {fault : SearchFault}
    (hRendering : ∀ failure,
      rendering = .error failure →
        ∃ cause, failure = .expression cause)
    (hWrite : writeFile request rendering = .error fault) :
    ∃ cause, fault = .expression cause := by
  rcases bind_eq_error_iff.1 hWrite with
    hFile | ⟨file, _, hWrite⟩
  · exact expression_of_argument hFile
  · rcases bind_eq_error_iff.1 hWrite with
      hFailed | ⟨_, _, hDone⟩
    · exact hRendering fault hFailed
    · exact nomatch hDone

/-
  A request that is refused names an action that is not there
  yet, or it is at fault as a part of its expression.
-/
theorem fault_of_ofRequest
    {request : ActionRequest}
    {fault : SearchFault}
    (hRequest : ofRequest request = .error fault) :
    (request.name ∈ reserved ∧
      fault = .reserved request.name) ∨
    (request.name ∉ reserved ∧
      ∃ cause, fault = .expression cause) := by
  unfold ofRequest at hRequest
  by_cases hReserved : request.name ∈ reserved
  · rw [if_pos (List.contains_iff_mem.2 hReserved)]
      at hRequest
    cases hRequest
    exact .inl ⟨hReserved, rfl⟩
  · have hContains :
        ¬ reserved.contains request.name = true := by
      simpa using hReserved
    rw [if_neg hContains] at hRequest
    refine .inr ⟨hReserved, ?_⟩
    split at hRequest
    case h_1 | h_2 | h_5 | h_9 | h_10 | h_11 =>
      exact nomatch hRequest
    case h_3 | h_4 | h_6 =>
      apply expression_of_writeFile _ hRequest
      intro failure hFailed
      exact nomatch hFailed
    case h_7 =>
      have hFormat := map_eq_error_iff.1 hRequest
      exact expression_of_formatArgument hFormat
    case h_8 =>
      apply expression_of_writeFile _ hRequest
      intro failure hFormat
      exact expression_of_formatArgument hFormat
    case h_12 =>
      cases hRequest
      exact ⟨_, rfl⟩

end SearchAction

namespace Search

open Expression

------------------------------------------------------------
-- Arguments Without A Fault
------------------------------------------------------------

/-
  Arguments that are read without a fault in the expression.
  It matters whether the group so far is narrowed: if it is
  not, then it matches everything, and nothing is read behind
  its disjunction.
-/
inductive Readable
    (registry : Registry)
    (now : Int64) :
    Bool → List String → Prop
| expression
    {narrowed : Bool}
    {words : List String}
    {filter : Option Filter}
    {sorts : List SortKey}
    (hWords : Sentence registry now words filter sorts) :
    Readable registry now narrowed words
| reserved
    {narrowed : Bool}
    {front words : List String}
    {filter : Option Filter}
    {sorts : List SortKey}
    {request : ActionRequest}
    (hFront : Sentence registry now front filter sorts)
    (hWords : Requests registry words request)
    (hName : request.name ∈ SearchAction.reserved)
    (rest : List String) :
    Readable registry now narrowed
      (front ++ (words ++ rest))
| within
    {narrowed : Bool}
    {front joint rest : List String}
    {clause : Clause}
    (hClause : Acts registry now front clause)
    (hJoint : Junction false joint)
    (hRest :
      Readable registry now
        (narrowed || clause.filter.isSome) rest) :
    Readable registry now narrowed
      (front ++ (joint ++ rest))
| behind
    {narrowed : Bool}
    {front joint rest : List String}
    {clause : Clause}
    (hClause : Acts registry now front clause)
    (hJoint : Junction true joint)
    (hNarrowed :
      (narrowed || clause.filter.isSome) = true)
    (hSome : rest ≠ [])
    (hRest : Readable registry now false rest) :
    Readable registry now narrowed
      (front ++ (joint ++ rest))
| unread
    {narrowed : Bool}
    {front joint rest : List String}
    {clause : Clause}
    (hClause : Acts registry now front clause)
    (hJoint : Junction true joint)
    (hMatched :
      (narrowed || clause.filter.isSome) = false)
    (hSome : rest ≠ []) :
    Readable registry now narrowed
      (front ++ (joint ++ rest))

variable {registry : Registry} {now : Int64}

theorem Scope.isSome_behind
    (scope : Scope)
    (clause : Clause) :
    (scope.behind clause).group.isSome =
      (scope.group.isSome || clause.filter.isSome) := by
  unfold Scope.behind Filter.both
  cases scope.group <;> cases clause.filter <;> rfl

/- Behind a disjunction a group begins anew. -/
theorem Scope.next?_cases
    (scope : Scope) :
    (scope.group.isSome = false ∧ scope.next? = none) ∨
    (scope.group.isSome = true ∧
      ∃ later, scope.next? = some later ∧
        later.group.isSome = false) := by
  unfold Scope.next?
  cases scope.group with
  | none => exact .inl ⟨rfl, rfl⟩
  | some group => exact .inr ⟨rfl, _, rfl, rfl⟩

/- Arguments that are readable begin with a segment. -/
theorem Readable.exists_read
    {narrowed : Bool}
    {args : List String}
    (hArgs : Readable registry now narrowed args) :
    ∃ segment,
      Segment.read registry now args = .ok segment := by
  cases hArgs with
  | expression hWords =>
      exact ⟨_, Segment.read_of_sentence hWords⟩
  | reserved hFront hWords hName rest =>
      exact ⟨_, Segment.read_of_requests hFront hWords rest⟩
  | within hClause hJoint hRest =>
      exact (planIn_of_acts hClause {} _).1
  | behind hClause hJoint hNarrowed hSome hRest =>
      exact (planIn_of_acts hClause {} _).1
  | unread hClause hJoint hMatched hSome =>
      exact (planIn_of_acts hClause {} _).1

/- Whether a plan ends in a fault of the expression. -/
def Plan.IsFaulty (plan : Plan) : Prop :=
  ∃ fault, plan.fault = some (.expression fault)

theorem Plan.not_isFaulty_of_none
    {plan : Plan}
    (hFault : plan.fault = none) :
    ¬ plan.IsFaulty := by
  rintro ⟨fault, hSome⟩
  rw [hFault] at hSome
  exact nomatch hSome

/- Nothing that is read is at fault. -/
theorem Readable.not_isFaulty
    {args : List String}
    {scope : Scope}
    (hArgs :
      Readable registry now scope.group.isSome args) :
    ¬ (planIn registry now scope args).IsFaulty := by
  generalize hScope : scope.group.isSome = narrowed at hArgs
  induction hArgs generalizing scope with
  | expression hWords =>
      have hRead := Segment.read_of_sentence hWords
      rw [planIn_of_end scope hRead rfl]
      exact Plan.not_isFaulty_of_none rfl
  | @reserved _ front words filter sorts request hFront hWords
      hName rest =>
      have hRead :=
        Segment.read_of_requests hFront hWords rest
      have hRequest :
          SearchAction.ofRequest request =
            .error (.reserved request.name) := by
        unfold SearchAction.ofRequest
        rw [if_pos (List.contains_iff_mem.2 hName)]
      rw [planIn_of_refusal scope hRead rfl hRequest]
      rintro ⟨_, hFault⟩
      exact nomatch hFault
  | @within narrowed front joint rest clause hClause hJoint
      hRest ih =>
      have hLater :
          (scope.behind clause).group.isSome =
            (narrowed || clause.filter.isSome) := by
        rw [Scope.isSome_behind, hScope]
      have hNot := ih hLater
      rw [(planIn_of_acts hClause scope _).2]
      by_cases hNone : rest = []
      · -- An operator may stand at the end of all words.
        rw [hNone, List.append_nil]
        apply Plan.not_isFaulty_of_none
        cases hJoint with
        | side => rfl
        | conjunction hWord =>
            rw [planBehind_conjunction_nil registry now _
              hWord]
            rfl
      · rcases hRest.exists_read with ⟨segment, hRead⟩
        rw [planBehind_of_junction _ hJoint hNone hRead]
        exact hNot
  | @behind narrowed front joint rest clause hClause hJoint
      hNarrowed hSome hRest ih =>
      rw [(planIn_of_acts hClause scope _).2]
      rw [← hScope, ← Scope.isSome_behind] at hNarrowed
      cases hJoint with
      | disjunction hWord =>
          rw [List.singleton_append,
            planBehind_disjunction registry now _ hWord
              hSome]
          rcases (scope.behind clause).next?_cases with
            ⟨hNone, _⟩ | ⟨_, later, hNext, hFresh⟩
          · exact nomatch hNone.symm.trans hNarrowed
          · rw [hNext]
            exact ih hFresh
  | @unread narrowed front joint rest clause hClause hJoint
      hMatched hSome =>
      rw [(planIn_of_acts hClause scope _).2]
      rw [← hScope, ← Scope.isSome_behind] at hMatched
      cases hJoint with
      | disjunction hWord =>
          rw [List.singleton_append,
            planBehind_disjunction registry now _ hWord
              hSome]
          rcases (scope.behind clause).next?_cases with
            ⟨_, hNone⟩ | ⟨hNarrowed, _⟩
          · rw [hNone]
            exact Plan.not_isFaulty_of_none rfl
          · exact nomatch hMatched.symm.trans hNarrowed

/- What comes behind a clause that is planned without fault. -/
theorem readable_behind
    {scope : Scope}
    {front rest : List String}
    {clause : Clause}
    (hClause : Acts registry now front clause)
    (hRest : ∀ (later : Scope) (words : List String),
      words.length ≤ rest.length →
        ¬ (planIn registry now later words).IsFaulty →
          Readable registry now later.group.isSome words)
    (hPlan :
      ¬ (planBehind registry now (scope.behind clause)
        rest).IsFaulty) :
    Readable registry now scope.group.isSome
      (front ++ rest) := by
  have hGroup := scope.isSome_behind clause
  have hEnd :
      Readable registry now
        (scope.group.isSome || clause.filter.isSome) [] :=
    .expression (.directives .nil)
  cases rest with
  | nil => exact .within hClause .side hEnd
  | cons word others =>
      by_cases hDisjunction : IsDisjunction word
      · have hJoint := Junction.disjunction hDisjunction
        by_cases hOthers : others = []
        · -- Nothing stands behind the disjunction.
          rw [hOthers,
            planBehind_disjunction_nil registry now _
              hDisjunction] at hPlan
          exact absurd ⟨_, rfl⟩ hPlan
        · rw [planBehind_disjunction registry now _
            hDisjunction hOthers] at hPlan
          rcases (scope.behind clause).next?_cases with
            ⟨hNone, _⟩ | ⟨hSome, later, hNext, hFresh⟩
          · rw [hGroup] at hNone
            exact .unread hClause hJoint hNone hOthers
          · rw [hNext] at hPlan
            rw [hGroup] at hSome
            have hLater :=
              hRest later others (Nat.le_succ _) hPlan
            rw [hFresh] at hLater
            exact .behind hClause hJoint hSome hOthers hLater
      · by_cases hConjunction : IsConjunction word
        · have hJoint := Junction.conjunction hConjunction
          by_cases hOthers : others = []
          · rw [hOthers]
            exact .within hClause hJoint hEnd
          · rw [planBehind_conjunction registry now _
              hConjunction hOthers] at hPlan
            have hLater :=
              hRest _ others (Nat.le_succ _) hPlan
            rw [hGroup] at hLater
            exact .within hClause hJoint hLater
        · rw [planBehind_of_not_operator registry now _
            hConjunction hDisjunction] at hPlan
          have hLater := hRest _ _ (Nat.le_refl _) hPlan
          rw [hGroup] at hLater
          exact .within hClause .side hLater

theorem readable_of_not_isFaulty
    {scope : Scope}
    {args : List String}
    (hPlan : ¬ (planIn registry now scope args).IsFaulty) :
    Readable registry now scope.group.isSome args := by
  induction hLength : args.length using Nat.strongRecOn
    generalizing scope args with
  | ind n ih =>
      cases hRead : Segment.read registry now args with
      | error fault =>
          rw [planIn_of_fault scope hRead] at hPlan
          exact absurd ⟨fault, rfl⟩ hPlan
      | ok segment =>
          rcases Segment.cases_of_read hRead with
            ⟨_, hWords⟩ |
            ⟨front, words, request, hAction, hArgs, hFront,
              hWords⟩
          · exact .expression hWords
          · have hShort :=
              Segment.length_rest_of_read hRead hAction
            cases hRequest :
                SearchAction.ofRequest request with
            | error fault =>
                rw [planIn_of_refusal scope hRead hAction
                  hRequest] at hPlan
                rcases SearchAction.fault_of_ofRequest
                    hRequest with
                  ⟨hName, _⟩ | ⟨_, cause, hCause⟩
                · rw [hArgs]
                  exact .reserved hFront hWords hName _
                · rw [hCause] at hPlan
                  exact absurd ⟨cause, rfl⟩ hPlan
            | ok action =>
                rw [planIn_of_action scope hRead hAction
                  hRequest] at hPlan
                rw [hArgs, ← List.append_assoc]
                apply readable_behind
                  (.intro hFront hWords hRequest) _ hPlan
                intro later words hWords hLater
                exact ih words.length (by omega) hLater rfl

/-
  The plan of arguments is free of faults of the expression
  exactly if the arguments are readable.
-/
theorem planIn_readable_iff
    {scope : Scope}
    {args : List String} :
    ¬ (planIn registry now scope args).IsFaulty ↔
      Readable registry now scope.group.isSome args := by
  constructor
  · exact readable_of_not_isFaulty
  · exact Readable.not_isFaulty

/- Commands are readable as a whole. -/
theorem readable_of_command
    {args : List String}
    {groups : List (List Clause)}
    (hCommand : Command registry now args groups) :
    Readable registry now false args := by
  rcases plan_of_command hCommand with ⟨deeds, hPlan, _⟩
  have hStart :
      planIn registry now {} args = { deeds := deeds } :=
    hPlan
  have hSound :
      ¬ (planIn registry now {} args).IsFaulty := by
    rw [hStart]
    exact Plan.not_isFaulty_of_none rfl
  exact readable_of_not_isFaulty hSound

end Search

end TreeKeeper
