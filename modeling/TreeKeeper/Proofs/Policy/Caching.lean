import Mathlib.Data.Finset.Card
import Mathlib.Data.List.Forall2
import Mathlib.Data.List.TakeWhile
import TreeKeeper.Proofs.Policy.Tallies

/-
  Caches over a whole history of requests.  Whatever was
  asked before, an action that is asked for is what the rule
  or the fallback says, each kind is set up once, and its
  state counts the outcomes since then.  A release hands the
  states out, and none follows that hands out anything.

  Key definitions include:
    * `Action.Spells`
    * `ActionCache.Request`
    * `ActionCache.serveAll`
    * `ActionCache.Request.Answered`
    * `ActionCache.resolved`
    * `ActionCache.expected`
    * `ActionCache.Remembers`

  Main declarations:
    * `ActionCache.Remembers.serve`
    * `ActionCache.remembers_serveAll`
    * `ActionCache.serveAll_resolves`
-/

------------------------------------------------------------
-- Requests
------------------------------------------------------------

namespace TreeKeeper

/-
  The words of the command line of an action: those that its
  template splits into, and none if the action has no
  template or one that cannot be split.
-/
inductive Action.Spells
    (action : Action) : List String → Prop
| command
    {template : String}
    {words : List String}
    (hKind : action.kind = .command)
    (hTemplate :
      action.parameters.get? commandKey = some template)
    (hSplit : CommandWords.split template = .ok words) :
    Spells action words
| silent
    (hNone : ∀ template words,
      action.kind = .command →
      action.parameters.get? commandKey = some template →
      CommandWords.split template ≠ .ok words) :
    Spells action []

namespace ActionCache

/-
  What a run asks of a cache: the action for a part of the
  policy, or that the outcome of an action is counted.
-/
inductive Request where
| prepare (selection : Selection)
| record (kind : ActionKind) (success : Bool)
deriving DecidableEq

/- Serve a request, with the action that it asks for. -/
def serve
    (policy : Policy)
    (cache : ActionCache) :
    Request → Option Prepared × ActionCache
| .prepare selection => cache.prepare policy selection
| .record kind success => (none, cache.record kind success)

/- Serve requests one by one. -/
def serveAll
    (policy : Policy) :
    List Request → ActionCache →
      List (Option Prepared) × ActionCache
| [], cache => ([], cache)
| request :: rest, cache =>
    let (answer, cache) := cache.serve policy request
    let (answers, cache) := serveAll policy rest cache
    (answer :: answers, cache)

namespace Request

/- Whether a request is about a part that a policy has. -/
def IsIn (policy : Policy) : Request → Prop
| prepare (.matched index) => index < policy.rules.length
| _ => True

/-
  What a request is answered without any cache: the action
  of the rule or the fallback under its name, and nothing
  where nothing is to be done or only an outcome is counted.
-/
inductive Answered
    (policy : Policy) : Request → Option Prepared → Prop
| excluded :
    Answered policy (.prepare .excluded) none
| rule
    {index : Nat}
    {rule : Rule}
    {words : List String}
    (hRule : policy.rules[index]? = some rule)
    (hWords : rule.action.Spells words) :
    Answered policy (.prepare (.matched index))
      (some {
        rule := rule.name
        kind := rule.action.kind
        parameters := rule.action.parameters
        words := words })
| fallback
    {words : List String}
    (hWords : policy.fallback.Spells words) :
    Answered policy (.prepare .unmatched)
      (some {
        rule := "fallback"
        kind := policy.fallback.kind
        parameters := policy.fallback.parameters
        words := words })
| counted
    (kind : ActionKind)
    (success : Bool) :
    Answered policy (.record kind success) none

/- The kind of the action that a request asks for. -/
def kind? (policy : Policy) : Request → Option ActionKind
| prepare selection =>
    (policy.actionFor selection).map Action.kind
| record _ _ => none

end Request

------------------------------------------------------------
-- Histories
------------------------------------------------------------

/- The kinds of the actions that were asked for. -/
def resolved
    (policy : Policy)
    (history : List Request) : List ActionKind :=
  history.filterMap (Request.kind? policy)

/-
  The requests from the first one on that asks for an action
  of a kind.
-/
def since
    (policy : Policy)
    (kind : ActionKind)
    (history : List Request) : List Request :=
  history.dropWhile fun request =>
    request.kind? policy ≠ some kind

/-
  The state of a kind behind a history: none before the first
  action of the kind, and then the outcomes counted since.
-/
def expected
    (policy : Policy)
    (capabilities : Capabilities)
    (kind : ActionKind)
    (history : List Request) : Option KindState :=
  if kind ∈ resolved policy history then
    some {
      supported := kind.isSupported capabilities
      applied :=
        (since policy kind history).count
          (.record kind true)
      failed :=
        (since policy kind history).count
          (.record kind false) }
  else none

section Histories

variable {policy : Policy} {history : List Request}

theorem resolved_concat
    (request : Request) :
    resolved policy (history ++ [request]) =
      resolved policy history ++
        (request.kind? policy).toList := by
  unfold resolved
  rw [List.filterMap_append]
  cases hKind : request.kind? policy <;> simp [hKind]

theorem mem_resolved_concat
    (kind : ActionKind)
    (request : Request) :
    kind ∈ resolved policy (history ++ [request]) ↔
      kind ∈ resolved policy history ∨
        request.kind? policy = some kind := by
  rw [resolved_concat, List.mem_append, Option.mem_toList]

theorem since_eq_nil_iff
    {kind : ActionKind} :
    since policy kind history = [] ↔
      kind ∉ resolved policy history := by
  unfold since resolved
  rw [List.dropWhile_eq_nil_iff]
  simp

/- A history of a kind goes on, or begins, or does not. -/
theorem since_concat
    (kind : ActionKind)
    (request : Request) :
    since policy kind (history ++ [request]) =
      if kind ∈ resolved policy history then
        since policy kind history ++ [request]
      else if request.kind? policy = some kind then [request]
      else [] := by
  have hAppend :
      since policy kind (history ++ [request]) =
        if (since policy kind history).isEmpty then
          since policy kind [request]
        else since policy kind history ++ [request] :=
    List.dropWhile_append
  rw [hAppend]
  by_cases hKnown : kind ∈ resolved policy history
  · have hSome : since policy kind history ≠ [] :=
      fun hNil => since_eq_nil_iff.1 hNil hKnown
    rw [if_pos hKnown,
      if_neg (by simpa using hSome)]
  · have hNone : since policy kind history = [] :=
      since_eq_nil_iff.2 hKnown
    rw [if_neg hKnown, if_pos (by simpa using hNone)]
    by_cases hKind : request.kind? policy = some kind
    · rw [if_pos hKind]
      simp [since, hKind]
    · rw [if_neg hKind]
      simp [since, hKind]

variable {capabilities : Capabilities}

/- Asking for an action sets its kind up, and no other one. -/
theorem expected_prepare
    (selection : Selection)
    (kind : ActionKind) :
    expected policy capabilities kind
        (history ++ [.prepare selection]) =
      if (policy.actionFor selection).map Action.kind =
          some kind then
        some
          ((expected policy capabilities kind history).getD
            { supported := kind.isSupported capabilities })
      else expected policy capabilities kind history := by
  have hKind :
      (Request.prepare selection).kind? policy =
        (policy.actionFor selection).map Action.kind :=
    rfl
  unfold expected
  simp only [mem_resolved_concat, since_concat, hKind]
  generalize (policy.actionFor selection).map Action.kind =
    asked
  by_cases hKnown : kind ∈ resolved policy history
  · simp [hKnown]
  · by_cases hAsked : asked = some kind
    · simp [hKnown, hAsked]
    · simp [hKnown, hAsked]

/- Counting an outcome counts it for a kind that is set up. -/
theorem expected_record
    (kind other : ActionKind)
    (success : Bool) :
    expected policy capabilities other
        (history ++ [.record kind success]) =
      if other = kind then
        (expected policy capabilities kind history).map
          (KindState.count · success)
      else expected policy capabilities other history := by
  have hKind :
      (Request.record kind success).kind? policy = none :=
    rfl
  unfold expected
  simp only [mem_resolved_concat, since_concat, hKind]
  by_cases hKnown : other ∈ resolved policy history
  · by_cases hSame : other = kind
    · subst hSame
      cases success <;> simp [hKnown, KindState.count]
    · simp [hKnown, hSame, Ne.symm hSame]
  · by_cases hSame : other = kind
    · subst hSame
      simp [hKnown]
    · simp [hKnown, hSame]

end Histories

------------------------------------------------------------
-- Actions From Scratch
------------------------------------------------------------

theorem spells_commandWords
    (action : Action) :
    action.Spells action.commandWords := by
  unfold Action.commandWords
  split
  · rename_i template hKind hTemplate
    cases hSplit : CommandWords.split template with
    | ok words => exact .command hKind hTemplate hSplit
    | error fault =>
        refine .silent fun other words _ hOther hWords => ?_
        rw [hTemplate] at hOther
        cases hOther
        rw [hSplit] at hWords
        exact nomatch hWords
  · rename_i hOther
    refine .silent fun template words hKind hTemplate _ => ?_
    exact hOther template hKind hTemplate

/- Preparing a part that a policy has is the right answer. -/
theorem Request.answered_prepared?
    {policy : Policy}
    {selection : Selection}
    (hIn : (Request.prepare selection).IsIn policy) :
    Answered policy (.prepare selection)
      (policy.prepared? selection) := by
  cases selection with
  | excluded => exact .excluded
  | unmatched =>
      exact .fallback (spells_commandWords policy.fallback)
  | matched index =>
      have hLess : index < policy.rules.length := hIn
      have hRule := List.getElem?_eq_getElem hLess
      have hPrepared :
          policy.prepared? (.matched index) =
            some (policy.rules[index].action.prepare
              policy.rules[index].name) := by
        simp [Policy.prepared?, Policy.actionFor,
          Policy.ruleName, hRule]
      rw [hPrepared]
      exact .rule hRule (spells_commandWords _)

------------------------------------------------------------
-- Single Requests
------------------------------------------------------------

variable {policy : Policy} {cache : ActionCache}
variable {capabilities : Capabilities}
variable {history : List Request}

theorem capabilities_prepare
    (cache : ActionCache)
    (policy : Policy)
    (selection : Selection) :
    (cache.prepare policy selection).2.capabilities =
      cache.capabilities := by
  have hSetUp : ∀ kind,
      (cache.setUp kind).capabilities =
        cache.capabilities := by
    intro kind
    unfold setUp
    split <;> rfl
  unfold prepare keep
  split
  · rfl
  · split
    · rfl
    · dsimp only
      split
      · exact hSetUp _
      · exact hSetUp _

/- A kind is set up by the first of its actions alone. -/
theorem initializations_prepare
    {selection : Selection}
    {action : Action}
    (hFaithful : cache.IsFaithful policy)
    (hReady : cache.IsReady)
    (hAction : policy.actionFor selection = some action) :
    (cache.prepare policy selection).2.initializations =
      if (cache.state? action.kind).isSome then
        cache.initializations
      else cache.initializations + 1 := by
  unfold prepare
  rw [hAction]
  cases hKept : cache.slots.lookup selection with
  | some prepared =>
      have hPrepared := hFaithful selection prepared hKept
      unfold Policy.prepared? at hPrepared
      rw [hAction] at hPrepared
      cases hPrepared
      have hKnown := hReady selection _ hKept
      exact (if_pos hKnown).symm
  | none =>
      have hKeep : ∀ prepared,
          ((cache.setUp action.kind).keep selection
              prepared).initializations =
            (cache.setUp action.kind).initializations := by
        intro prepared
        unfold keep
        split <;> rfl
      dsimp only
      rw [hKeep]
      unfold setUp
      cases cache.state? action.kind with
      | some state => rfl
      | none => rfl

/-
  Whether a cache in use is what a history of requests makes
  of it: it hands out what the policy says, has set up each
  kind once, and has the states that the history asks for.
-/
structure Remembers
    (policy : Policy)
    (capabilities : Capabilities)
    (history : List Request)
    (cache : ActionCache) : Prop where
  inUse : cache.isReleased = false
  offers : cache.capabilities = capabilities
  faithful : cache.IsFaithful policy
  ready : cache.IsReady
  states : ∀ kind,
    cache.state? kind =
      expected policy capabilities kind history
  initializations :
    cache.initializations =
      (resolved policy history).toFinset.card

theorem remembers_nil
    (policy : Policy)
    (capabilities : Capabilities) :
    Remembers policy capabilities []
      { capabilities := capabilities } where
  inUse := rfl
  offers := rfl
  faithful := isFaithful_of_slots_eq_nil rfl
  ready := nofun
  states := fun _ => rfl
  initializations := rfl

namespace Remembers

theorem isSome_state?
    (hCache : cache.Remembers policy capabilities history)
    (kind : ActionKind) :
    (cache.state? kind).isSome ↔
      kind ∈ resolved policy history := by
  rw [hCache.states]
  unfold expected
  split <;> simp [*]

/- The kind of an action that is asked for counts once. -/
theorem initializations_concat
    {selection : Selection}
    {action : Action}
    (hCache : cache.Remembers policy capabilities history)
    (hAction : policy.actionFor selection = some action) :
    (cache.prepare policy selection).2.initializations =
      (resolved policy
        (history ++ [.prepare selection])).toFinset.card := by
  have hKind :
      (Request.prepare selection).kind? policy =
        some action.kind :=
    congrArg (Option.map Action.kind) hAction
  have hInsert :
      (resolved policy history ++ [action.kind]).toFinset =
        insert action.kind
          (resolved policy history).toFinset := by
    ext kind
    simp
  rw [initializations_prepare hCache.faithful hCache.ready
    hAction, hCache.initializations, resolved_concat, hKind,
    Option.toList_some, hInsert]
  by_cases hKnown : action.kind ∈ resolved policy history
  · rw [if_pos ((hCache.isSome_state? _).2 hKnown),
      Finset.insert_eq_of_mem (List.mem_toFinset.2 hKnown)]
  · rw [if_neg (mt (hCache.isSome_state? _).1 hKnown),
      Finset.card_insert_of_notMem
        (mt List.mem_toFinset.1 hKnown)]

/- Asking for an action makes the history longer by that. -/
theorem prepare
    (hCache : cache.Remembers policy capabilities history)
    (selection : Selection) :
    (cache.prepare policy selection).2.Remembers policy
      capabilities (history ++ [.prepare selection]) := by
  cases hAction : policy.actionFor selection with
  | none =>
      have hSame :
          (cache.prepare policy selection).2 = cache := by
        unfold ActionCache.prepare
        rw [hAction]
      have hKind :
          (Request.prepare selection).kind? policy = none :=
        congrArg (Option.map Action.kind) hAction
      rw [hSame]
      refine ⟨hCache.inUse, hCache.offers, hCache.faithful,
        hCache.ready, ?states, ?initializations⟩
      case states =>
        intro kind
        rw [expected_prepare, hAction]
        exact hCache.states kind
      case initializations =>
        rw [resolved_concat, hKind, Option.toList_none,
          List.append_nil]
        exact hCache.initializations
  | some action =>
      refine ⟨?inUse, ?offers, ?faithful, ?ready, ?states,
        ?initializations⟩
      case inUse =>
        exact (cache.isReleased_prepare policy
          selection).trans hCache.inUse
      case offers =>
        exact (cache.capabilities_prepare policy
          selection).trans hCache.offers
      case faithful =>
        exact isFaithful_prepare hCache.faithful selection
      case ready =>
        exact isReady_prepare hCache.faithful hCache.ready
          hAction
      case states =>
        intro kind
        rw [state?_prepare hCache.faithful hCache.ready
          hAction, expected_prepare, hAction]
        by_cases hKind : kind = action.kind
        · subst hKind
          rw [if_pos rfl, if_pos (Option.map_some ..),
            ← hCache.states, ← hCache.offers]
          rfl
        · have hOther :
              (some action).map Action.kind ≠ some kind :=
            fun hSame => hKind (Option.some.inj hSame).symm
          rw [if_neg hKind, if_neg hOther]
          exact hCache.states kind
      case initializations =>
        exact hCache.initializations_concat hAction

/- So does counting an outcome. -/
theorem record
    (hCache : cache.Remembers policy capabilities history)
    (kind : ActionKind)
    (success : Bool) :
    (cache.record kind success).Remembers policy capabilities
      (history ++ [.record kind success]) where
  inUse := hCache.inUse
  offers := hCache.offers
  faithful := hCache.faithful
  ready := hCache.ready.record kind success
  states := by
    intro other
    rw [state?_record, expected_record, hCache.states,
      hCache.states]
  initializations := by
    have hKind :
        (Request.record kind success).kind? policy = none :=
      rfl
    rw [resolved_concat, hKind, Option.toList_none,
      List.append_nil]
    exact hCache.initializations

/- Every request makes the history longer by itself. -/
theorem serve
    (hCache : cache.Remembers policy capabilities history)
    (request : Request) :
    (cache.serve policy request).2.Remembers policy
      capabilities (history ++ [request]) := by
  cases request with
  | prepare selection => exact hCache.prepare selection
  | record kind success => exact hCache.record kind success

/- The answer is the right one, whatever was asked before. -/
theorem answered
    (hCache : cache.Remembers policy capabilities history)
    {request : Request}
    (hIn : request.IsIn policy) :
    request.Answered policy
      (cache.serve policy request).1 := by
  cases request with
  | record kind success => exact .counted kind success
  | prepare selection =>
      have hPrepared :=
        prepare_of_isFaithful hCache.faithful selection
      unfold ActionCache.serve
      dsimp only
      rw [hPrepared]
      exact Request.answered_prepared? hIn

end Remembers

------------------------------------------------------------
-- Whole Histories
------------------------------------------------------------

/-
  By induction on the requests that are still to be served,
  for a cache with any history behind it.
-/
theorem remembers_serveAll
    {requests : List Request}
    (hCache : cache.Remembers policy capabilities history)
    (hIn : ∀ request ∈ requests, request.IsIn policy) :
    let served := serveAll policy requests cache
    List.Forall₂ (Request.Answered policy) requests
        served.1 ∧
      served.2.Remembers policy capabilities
        (history ++ requests) := by
  induction requests generalizing cache history with
  | nil =>
      rw [List.append_nil]
      exact ⟨.nil, hCache⟩
  | cons request rest ih =>
      rcases List.forall_mem_cons.1 hIn with ⟨hFirst, hRest⟩
      rcases ih (hCache.serve request) hRest with
        ⟨hAnswers, hLater⟩
      rw [List.append_assoc] at hLater
      exact ⟨.cons (hCache.answered hFirst) hAnswers, hLater⟩

/- A cache that was released stays so. -/
theorem isReleased_serveAll
    (policy : Policy)
    (requests : List Request)
    (cache : ActionCache) :
    (serveAll policy requests cache).2.isReleased =
      cache.isReleased := by
  induction requests generalizing cache with
  | nil => rfl
  | cons request rest ih =>
      have hFirst :
          (cache.serve policy request).2.isReleased =
            cache.isReleased := by
        cases request with
        | record kind success => rfl
        | prepare selection =>
            exact cache.isReleased_prepare policy selection
      exact (ih _).trans hFirst

theorem release_of_released
    (hReleased : cache.isReleased = true) :
    cache.release = ([], cache) := by
  unfold release
  rw [if_pos hReleased]

/-
  A cache refines the resolution from scratch.  Behind any
  history of requests it has answered each of them as if it
  was the first one, has set up as many kinds as there were
  among its answers, and knows each of them with its support
  and the outcomes counted since it was set up.  The first
  release hands out just these states.  Whatever follows, all
  later ones hand out nothing and change nothing.
-/
theorem serveAll_resolves
    (policy : Policy)
    (capabilities : Capabilities)
    {history : List Request}
    (hIn : ∀ request ∈ history, request.IsIn policy) :
    let served :=
      serveAll policy history { capabilities := capabilities }
    List.Forall₂ (Request.Answered policy) history served.1 ∧
    served.2.initializations =
      (resolved policy history).toFinset.card ∧
    (∀ kind,
      served.2.state? kind =
        expected policy capabilities kind history) ∧
    served.2.release.1 =
      ActionKind.all.filterMap (fun kind =>
        (expected policy capabilities kind history).map
          (kind, ·)) ∧
    ∀ later,
      let released :=
        (serveAll policy later served.2.release.2).2
      released.release = ([], released) := by
  intro served
  rcases remembers_serveAll
      (remembers_nil policy capabilities) hIn with
    ⟨hAnswers, hCache⟩
  have hRelease :
      served.2.release.1 = served.2.report ∧
        served.2.release.2.isReleased = true := by
    unfold release
    rw [if_neg (by simp [served, hCache.inUse])]
    exact ⟨rfl, rfl⟩
  refine ⟨hAnswers, hCache.initializations, hCache.states,
    ?report, ?later⟩
  case report =>
    rw [hRelease.1]
    unfold report
    simp only [served, hCache.states, List.nil_append]
  case later =>
    intro later released
    apply release_of_released
    exact (isReleased_serveAll policy later _).trans
      hRelease.2

/-
  Two rules that delete and the fallback: the second rule
  finds its kind set up, with an outcome that is not lost.
-/
theorem serveAll_resolves_shared :
    let delete : Action := ⟨.delete, Dictionary.empty⟩
    let policy : Policy :=
      { name := "purge"
        filter := none
        sorts := []
        rules :=
          [⟨"first", none, delete⟩, ⟨"second", none, delete⟩]
        fallback := .nothing }
    let history : List Request :=
      [.record .delete true, .prepare (.matched 0),
        .record .delete true, .prepare (.matched 1),
        .record .delete false, .prepare .unmatched]
    let served :=
      serveAll policy history { capabilities := {} }
    (∀ request ∈ history, request.IsIn policy) ∧
    served.2.initializations = 2 ∧
    served.2.release.1 =
      [(.delete, ⟨false, 1, 1⟩), (.noop, ⟨true, 0, 0⟩)] := by
  intro delete policy history served
  have hIn : ∀ request ∈ history, request.IsIn policy := by
    simp [history, Request.IsIn, policy]
  rcases serveAll_resolves policy {} hIn with
    ⟨_, hCount, _, hRelease, _⟩
  refine ⟨hIn, hCount.trans ?_, hRelease.trans ?_⟩
  · decide
  · decide

end ActionCache

end TreeKeeper
