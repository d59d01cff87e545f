import Mathlib.Data.List.Forall2
import TreeKeeper.Proofs.Search.Planning

/-
  Commands of searches: expressions with actions, which form
  groups with disjunctions in between.  The words of a command
  tell for each action which entries it concerns: those that
  match every expression of its own group up to the action,
  and in each earlier group fail to match some expression.

  Key definitions include:
    * `Search.Command`
    * `Search.Occurrence`
    * `Search.occurrences`
    * `Search.Scope.Stands`
    * `Search.Deed.Realizes`

  Main declarations:
    * `Search.planIn_of_group`
    * `Search.planIn_of_groups`
    * `Search.plan_of_command`
-/

------------------------------------------------------------
-- Words Of Commands
------------------------------------------------------------

namespace TreeKeeper

namespace Search

open Expression

/- An action with the expression in front of it. -/
structure Clause where
  filter : Option Filter
  sorts : List SortKey
  action : SearchAction

section Words

variable (registry : Registry) (now : Int64)

/- The words of a clause, whose action is supported. -/
inductive Acts : List String → Clause → Prop
| intro
    {front words : List String}
    {filter : Option Filter}
    {sorts : List SortKey}
    {request : ActionRequest}
    {action : SearchAction}
    (hFront : Sentence registry now front filter sorts)
    (hWords : Requests registry words request)
    (hAction :
      SearchAction.ofRequest request = .ok action) :
    Acts (front ++ words) ⟨filter, sorts, action⟩

/-
  The words between an action and what follows it: at most
  one operator.  A disjunction separates groups.
-/
inductive Junction : Bool → List String → Prop
| side : Junction false []
| conjunction
    {word : String}
    (hWord : IsConjunction word) :
    Junction false [word]
| disjunction
    {word : String}
    (hWord : IsDisjunction word) :
    Junction true [word]

/- Clauses that no disjunction separates. -/
inductive Group : List String → List Clause → Prop
| one
    {words : List String}
    {clause : Clause}
    (hClause : Acts registry now words clause) :
    Group words [clause]
| more
    {front joint words : List String}
    {clause : Clause}
    {clauses : List Clause}
    (hClause : Acts registry now front clause)
    (hJoint : Junction false joint)
    (hRest : Group words clauses) :
    Group (front ++ (joint ++ words)) (clause :: clauses)

/- Groups with disjunctions in between. -/
inductive Groups : List String → List (List Clause) → Prop
| one
    {words : List String}
    {group : List Clause}
    (hGroup : Group registry now words group) :
    Groups words [group]
| more
    {front joint words : List String}
    {group : List Clause}
    {groups : List (List Clause)}
    (hGroup : Group registry now front group)
    (hJoint : Junction true joint)
    (hRest : Groups words groups) :
    Groups (front ++ (joint ++ words)) (group :: groups)

/-
  Whole commands.  An expression without actions prints what
  matches it, and an expression behind the last action stands
  for nothing.
-/
inductive Command : List String → List (List Clause) → Prop
| implied
    {words : List String}
    {filter : Option Filter}
    {sorts : List SortKey}
    (hWords : Sentence registry now words filter sorts) :
    Command words [[⟨filter, sorts, .print⟩]]
| acting
    {words : List String}
    {groups : List (List Clause)}
    (hGroups : Groups registry now words groups) :
    Command words groups
| trailing
    {separates : Bool}
    {front joint words : List String}
    {groups : List (List Clause)}
    {filter : Option Filter}
    {sorts : List SortKey}
    (hGroups : Groups registry now front groups)
    (hJoint : Junction separates joint)
    (hWords : Sentence registry now words filter sorts)
    (hSome : words ≠ []) :
    Command (front ++ (joint ++ words)) groups

end Words

variable {registry : Registry} {now : Int64}

theorem Acts.words_ne_nil
    {words : List String}
    {clause : Clause}
    (hClause : Acts registry now words clause) :
    words ≠ [] := by
  cases hClause with
  | intro hFront hWords hAction =>
      cases hWords
      simp

theorem Group.words_ne_nil
    {words : List String}
    {clauses : List Clause}
    (hGroup : Group registry now words clauses) :
    words ≠ [] := by
  cases hGroup with
  | one hClause => exact hClause.words_ne_nil
  | more hClause hJoint hRest =>
      simp [hClause.words_ne_nil]

theorem Groups.words_ne_nil
    {words : List String}
    {groups : List (List Clause)}
    (hGroups : Groups registry now words groups) :
    words ≠ [] := by
  cases hGroups with
  | one hGroup => exact hGroup.words_ne_nil
  | more hGroup hJoint hRest =>
      simp [hGroup.words_ne_nil]

------------------------------------------------------------
-- Meaning Of Commands
------------------------------------------------------------

/-
  An action as it occurs in a command: the groups in front of
  its own one, and the clauses of its own group up to it.
-/
structure Occurrence where
  earlier : List (List Clause)
  front : List Clause
  action : SearchAction

/- Whether an occurrence of an action concerns an entry. -/
def Occurrence.Concerns
    (occurrence : Occurrence)
    (entry : Entry) : Prop :=
  (∀ clause ∈ occurrence.front,
    Filter.admits clause.filter entry = true) ∧
  ∀ group ∈ occurrence.earlier, ∃ clause ∈ group,
    Filter.admits clause.filter entry = false

/- The sort keys up to an occurrence, in their order. -/
def Occurrence.sorts
    (occurrence : Occurrence) : List SortKey :=
  (occurrence.earlier.flatten ++ occurrence.front).flatMap
    Clause.sorts

/- Whether all expressions of a group are empty. -/
def matchesAll (group : List Clause) : Bool :=
  group.all fun clause => clause.filter.isNone

/- The actions of a group behind clauses in front of them. -/
def occurrencesIn
    (earlier : List (List Clause)) :
    List Clause → List Clause → List Occurrence
| _, [] => []
| front, clause :: clauses =>
    ⟨earlier, front ++ [clause], clause.action⟩ ::
      occurrencesIn earlier (front ++ [clause]) clauses

/-
  The actions of groups behind earlier ones.  A group that
  matches all entries leaves none to the groups behind it.
-/
def occurrencesFrom :
    List (List Clause) → List (List Clause) →
      List Occurrence
| _, [] => []
| earlier, group :: groups =>
    occurrencesIn earlier [] group ++
      if matchesAll group then []
      else occurrencesFrom (earlier ++ [group]) groups

/- The actions of a command that can be executed. -/
def occurrences
    (groups : List (List Clause)) : List Occurrence :=
  occurrencesFrom [] groups

/-
  Whether a deed does what an occurrence asks for, with a
  filter for just the entries that the occurrence concerns.
-/
structure Deed.Realizes
    (deed : Deed)
    (occurrence : Occurrence) : Prop where
  action : deed.action = occurrence.action
  sorts : deed.sorts = occurrence.sorts
  filter : ∀ entry,
    Filter.admits deed.filter entry = true ↔
      occurrence.Concerns entry

------------------------------------------------------------
-- Scopes
------------------------------------------------------------

namespace Scope

/- The scope behind a clause. -/
def behind
    (scope : Scope)
    (clause : Clause) : Scope :=
  { scope with
    group := Filter.both scope.group clause.filter
    sorts := scope.sorts ++ clause.sorts
    acted := true }

/-
  What a scope stands for behind groups and behind clauses of
  a further group.
-/
structure Stands
    (scope : Scope)
    (earlier : List (List Clause))
    (front : List Clause) : Prop where
  outer : ∀ entry,
    Filter.admits scope.outer entry = true ↔
      ∀ group ∈ earlier, ∃ clause ∈ group,
        Filter.admits clause.filter entry = false
  group : ∀ entry,
    Filter.admits scope.group entry = true ↔
      ∀ clause ∈ front,
        Filter.admits clause.filter entry = true
  empty : scope.group = none ↔ matchesAll front = true
  sorts : scope.sorts =
    (earlier.flatten ++ front).flatMap Clause.sorts

variable {scope later : Scope}
variable {earlier : List (List Clause)}
variable {front : List Clause}

theorem stands_start :
    ({} : Scope).Stands [] [] where
  outer := by simp
  group := by simp
  empty := by simp [matchesAll]
  sorts := rfl

/- A clause narrows its own group. -/
theorem Stands.behind
    (hScope : scope.Stands earlier front)
    (clause : Clause) :
    (scope.behind clause).Stands earlier
      (front ++ [clause]) where
  outer := hScope.outer
  group := by
    intro entry
    have hGroup := hScope.group entry
    simp only [Scope.behind, Filter.admits_both,
      Bool.and_eq_true, hGroup, List.forall_mem_append,
      List.forall_mem_singleton]
  empty := by
    have hEmpty := hScope.empty
    have hBoth :
        Filter.both scope.group clause.filter = none ↔
          scope.group = none ∧ clause.filter = none := by
      cases scope.group <;> cases clause.filter <;>
        simp [Filter.both]
    unfold matchesAll at hEmpty ⊢
    unfold Scope.behind
    rw [hBoth, hEmpty, List.all_append, Bool.and_eq_true]
    simp
  sorts := by
    unfold Scope.behind
    rw [hScope.sorts]
    simp

theorem next?_eq_none
    (hScope : scope.Stands earlier front)
    (hFront : matchesAll front = true) :
    scope.next? = none := by
  unfold next?
  rw [hScope.empty.2 hFront]

/- A disjunction leaves what the group failed to match. -/
theorem Stands.next
    (hScope : scope.Stands earlier front)
    (hFront : ¬ matchesAll front = true) :
    ∃ later,
      scope.next? = some later ∧
      later.Stands (earlier ++ [front]) [] ∧
      later.acted = scope.acted := by
  cases hGroup : scope.group with
  | none => exact absurd (hScope.empty.1 hGroup) hFront
  | some group =>
      have hNext :
          scope.next? = some { scope with
            outer :=
              Filter.both scope.outer (some (.not group))
            group := none } := by
        unfold next?
        rw [hGroup]
      refine ⟨_, hNext, ?_, rfl⟩
      constructor
      · intro entry
        have hOuter := hScope.outer entry
        have hMatch := hScope.group entry
        rw [hGroup] at hMatch
        have hFails :
            Filter.admits (some group) entry = false ↔
              ∃ clause ∈ front,
                Filter.admits clause.filter entry =
                  false := by
          rw [← Bool.not_eq_true, hMatch]
          simp
        simp only [Filter.admits_both, Filter.admits_not,
          Bool.and_eq_true, Bool.not_eq_true', hOuter,
          hFails, List.forall_mem_append,
          List.forall_mem_singleton]
      · simp
      · simp [matchesAll]
      · simp [hScope.sorts]

/- The deed of an action is about what its scope stands for. -/
theorem Stands.realizes
    (hScope : scope.Stands earlier front)
    (action : SearchAction) :
    (scope.deed action).Realizes
      ⟨earlier, front, action⟩ where
  action := rfl
  sorts := hScope.sorts
  filter := by
    intro entry
    have hOuter := hScope.outer entry
    have hGroup := hScope.group entry
    simp only [Scope.deed, Scope.filter, Filter.admits_both,
      Bool.and_eq_true, hOuter, hGroup, Occurrence.Concerns,
      and_comm]

end Scope

------------------------------------------------------------
-- Planning Clauses
------------------------------------------------------------

/- The plan that has more deeds in front. -/
def Plan.behindAll
    (plan : Plan)
    (deeds : List Deed) : Plan :=
  { plan with deeds := deeds ++ plan.deeds }

/- No expression begins with an operator. -/
theorem read_operator
    {word : String}
    (hWord : IsConjunction word ∨ IsDisjunction word)
    (rest : List String) :
    Segment.read registry now (word :: rest) =
      .error (.missingOperand word) := by
  have hFuel :
      ∃ fuel,
        3 * (word :: rest).length + 3 = fuel + 2 :=
    ⟨3 * (word :: rest).length + 1, rfl⟩
  rcases hFuel with ⟨fuel, hFuel⟩
  unfold Segment.read
  rw [hFuel]
  rcases hWord with hWord | hWord
  · simp [readExpression, readTerm,
      classify_eq_conjunction_iff.2 hWord, bind, Except.bind]
  · simp [readExpression, readTerm, readAlternatives,
      classify_eq_disjunction_iff.2 hWord, Filter.all, bind,
      Except.bind]

/- Words that are read may follow an action as they are. -/
theorem planBehind_of_read
    (scope : Scope)
    {args : List String}
    {segment : Segment}
    (hArgs : args ≠ [])
    (hRead : Segment.read registry now args = .ok segment) :
    planBehind registry now scope args =
      planIn registry now scope args := by
  cases args with
  | nil => exact absurd rfl hArgs
  | cons word rest =>
      apply planBehind_of_not_operator
      · intro hWord
        rw [read_operator (.inl hWord)] at hRead
        exact nomatch hRead
      · intro hWord
        rw [read_operator (.inr hWord)] at hRead
        exact nomatch hRead

/- What follows an action in its own group. -/
theorem planBehind_of_junction
    (scope : Scope)
    {joint args : List String}
    {segment : Segment}
    (hJoint : Junction false joint)
    (hArgs : args ≠ [])
    (hRead : Segment.read registry now args = .ok segment) :
    planBehind registry now scope (joint ++ args) =
      planIn registry now scope args := by
  cases hJoint with
  | side => exact planBehind_of_read scope hArgs hRead
  | conjunction hWord =>
      exact planBehind_conjunction registry now scope hWord
        hArgs

/- A clause is planned in front of what comes behind it. -/
theorem planIn_of_acts
    {words : List String}
    {clause : Clause}
    (hClause : Acts registry now words clause)
    (scope : Scope)
    (rest : List String) :
    (∃ segment,
      Segment.read registry now (words ++ rest) =
        .ok segment) ∧
    planIn registry now scope (words ++ rest) =
      (planBehind registry now (scope.behind clause)
        rest).behind
          ((scope.behind clause).deed clause.action) := by
  cases hClause with
  | @intro front words filter sorts request action hFront
      hWords hAction =>
      have hRead := Segment.read_of_requests hFront hWords
        rest
      rw [← List.append_assoc] at hRead
      exact ⟨⟨_, hRead⟩,
        planIn_of_action scope hRead rfl hAction⟩

------------------------------------------------------------
-- Planning Groups
------------------------------------------------------------

theorem exists_read_of_group
    {words : List String}
    {clauses : List Clause}
    (hGroup : Group registry now words clauses)
    (rest : List String) :
    ∃ segment,
      Segment.read registry now (words ++ rest) =
        .ok segment := by
  cases hGroup with
  | one hClause => exact (planIn_of_acts hClause {} rest).1
  | @more front joint words clause clauses hClause hJoint
      hRest =>
      rw [List.append_assoc]
      exact (planIn_of_acts hClause {} _).1

/-
  The plan of a group: one deed for each of its clauses, and
  then what comes behind the group.
-/
theorem planIn_of_group
    {words : List String}
    {clauses : List Clause}
    (hGroup : Group registry now words clauses)
    {scope : Scope}
    {earlier : List (List Clause)}
    {front : List Clause}
    (hScope : scope.Stands earlier front)
    (rest : List String) :
    ∃ deeds later,
      planIn registry now scope (words ++ rest) =
        (planBehind registry now later rest).behindAll
          deeds ∧
      List.Forall₂ Deed.Realizes deeds
        (occurrencesIn earlier front clauses) ∧
      later.Stands earlier (front ++ clauses) ∧
      later.acted = true := by
  induction hGroup generalizing scope front with
  | @one words clause hClause =>
      rcases planIn_of_acts hClause scope rest with
        ⟨_, hPlan⟩
      have hBehind := hScope.behind clause
      refine ⟨[_], _, hPlan, ?_, hBehind, rfl⟩
      exact .cons (hBehind.realizes _) .nil
  | @more first joint words clause clauses hClause hJoint
      hRest ih =>
      have hBehind := hScope.behind clause
      rcases planIn_of_acts hClause scope
          (joint ++ (words ++ rest)) with
        ⟨_, hPlan⟩
      rcases exists_read_of_group hRest rest with
        ⟨_, hRead⟩
      have hSome : words ++ rest ≠ [] := by
        simp [hRest.words_ne_nil]
      rw [planBehind_of_junction _ hJoint hSome hRead]
        at hPlan
      rcases ih hBehind with
        ⟨deeds, later, hOthers, hDeeds, hLater, hActed⟩
      rw [hOthers] at hPlan
      refine
        ⟨(scope.behind clause).deed clause.action :: deeds,
          later, ?_, ?_, ?_, hActed⟩
      · simp only [List.append_assoc]
        exact hPlan
      · exact .cons (hBehind.realizes _) hDeeds
      · rw [List.append_assoc] at hLater
        exact hLater

/-
  The plan of groups, with words behind them that add nothing
  to any plan: the deeds of all groups that can be executed.
-/
theorem planIn_of_groups
    {words : List String}
    {groups : List (List Clause)}
    (hGroups : Groups registry now words groups)
    {scope : Scope}
    {earlier : List (List Clause)}
    (hScope : scope.Stands earlier [])
    {rest : List String}
    (hRest : ∀ later : Scope, later.acted = true →
      planBehind registry now later rest = {}) :
    ∃ deeds,
      planIn registry now scope (words ++ rest) =
        { deeds := deeds } ∧
      List.Forall₂ Deed.Realizes deeds
        (occurrencesFrom earlier groups) := by
  induction hGroups generalizing scope earlier with
  | one hGroup =>
      rcases planIn_of_group hGroup hScope rest with
        ⟨deeds, later, hPlan, hDeeds, _, hActed⟩
      rw [hRest later hActed] at hPlan
      refine ⟨deeds, ?_, ?_⟩
      · rw [hPlan]
        simp [Plan.behindAll]
      · unfold occurrencesFrom occurrencesFrom
        simpa using hDeeds
  | @more first joint words group groups hGroup hJoint
      hOthers ih =>
      rcases planIn_of_group hGroup hScope
          (joint ++ (words ++ rest)) with
        ⟨deeds, later, hPlan, hDeeds, hLater, hActed⟩
      rw [List.nil_append] at hLater
      have hSome : words ++ rest ≠ [] := by
        simp [hOthers.words_ne_nil]
      cases hJoint with
      | @disjunction word hWord =>
          have hBehind :=
            planBehind_disjunction registry now later hWord
              hSome
          unfold occurrencesFrom
          by_cases hAll : matchesAll group = true
          · rw [if_pos hAll, List.append_nil]
            refine ⟨deeds, ?_, hDeeds⟩
            rw [Scope.next?_eq_none hLater hAll] at hBehind
            simp only [List.append_assoc]
            rw [hPlan, List.singleton_append, hBehind]
            simp [Plan.behindAll]
          · rw [if_neg hAll]
            rcases hLater.next hAll with
              ⟨next, hNext, hStands, _⟩
            rw [hNext] at hBehind
            rcases ih hStands with
              ⟨more, hMore, hRealizes⟩
            refine ⟨deeds ++ more, ?_,
              List.rel_append hDeeds hRealizes⟩
            simp only [List.append_assoc]
            rw [hPlan, List.singleton_append, hBehind]
            dsimp only
            rw [hMore]
            rfl

------------------------------------------------------------
-- Planning Commands
------------------------------------------------------------

/- An expression behind the last action adds nothing. -/
theorem planBehind_of_trailing
    {separates : Bool}
    {joint words : List String}
    {filter : Option Filter}
    {sorts : List SortKey}
    (hJoint : Junction separates joint)
    (hWords : Sentence registry now words filter sorts)
    (hSome : words ≠ [])
    {scope : Scope}
    (hActed : scope.acted = true) :
    planBehind registry now scope (joint ++ words) = {} := by
  have hRead := Segment.read_of_sentence hWords
  have hNothing :
      ∀ later : Scope, later.acted = true →
        planIn registry now later words = {} := by
    intro later hLater
    rw [planIn_of_end later hRead rfl]
    unfold Scope.lastDeeds
    have hExtend :
        (later.extend ⟨filter, sorts, none, []⟩).acted =
          true := hLater
    rw [if_pos hExtend]
  cases hJoint with
  | side =>
      have hPlan :=
        planBehind_of_junction scope .side hSome hRead
      exact hPlan.trans (hNothing scope hActed)
  | conjunction hWord =>
      rw [List.singleton_append,
        planBehind_conjunction registry now scope hWord
          hSome]
      exact hNothing scope hActed
  | disjunction hWord =>
      rw [List.singleton_append,
        planBehind_disjunction registry now scope hWord
          hSome]
      unfold Scope.next?
      cases scope.group with
      | none => rfl
      | some group => exact hNothing _ hActed

/-
  The plan of a command has one deed for each action that can
  be executed, on just the entries that the action concerns.
-/
theorem plan_of_command
    {args : List String}
    {groups : List (List Clause)}
    (hCommand : Command registry now args groups) :
    ∃ deeds,
      plan registry now args = { deeds := deeds } ∧
      List.Forall₂ Deed.Realizes deeds
        (occurrences groups) := by
  have hStart := Scope.stands_start
  cases hCommand with
  | @implied words filter sorts hWords =>
      have hRead := Segment.read_of_sentence hWords
      have hPlan := planIn_of_end {} hRead rfl
      have hBehind :=
        hStart.behind ⟨filter, sorts, .print⟩
      refine ⟨_, hPlan, ?_⟩
      unfold occurrences occurrencesFrom occurrencesFrom
      rw [ite_self, List.append_nil]
      exact .cons (hBehind.realizes _) .nil
  | acting hGroups =>
      have hPlan :=
        planIn_of_groups hGroups hStart
          (fun later _ => planBehind_nil registry now later)
      rw [List.append_nil] at hPlan
      exact hPlan
  | trailing hGroups hJoint hWords hSome =>
      exact planIn_of_groups hGroups hStart
        (fun later hActed =>
          planBehind_of_trailing hJoint hWords hSome hActed)

end Search

end TreeKeeper
