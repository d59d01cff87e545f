import TreeKeeper.Policy.Basic

/-
  Actions as they are prepared during a run.  An action is
  prepared once for each rule, each kind is set up when its
  first action is prepared, and the outcomes of the actions
  are counted for each kind.

  Key definitions include:
    * `Prepared`
    * `KindState`
    * `ActionCache`
    * `ActionCache.prepare`
    * `ActionCache.record`
    * `ActionCache.release`
-/

------------------------------------------------------------
-- Prepared Actions
------------------------------------------------------------

namespace TreeKeeper

/-
  An action that is ready for entries, with the name of its
  rule and the words of its command line.
-/
structure Prepared where
  rule : String
  kind : ActionKind
  parameters : Dictionary String
  words : List String
deriving DecidableEq

/- The words of the command line of an action. -/
def Action.commandWords (action : Action) : List String :=
  match action.kind, action.parameters.get? commandKey with
  | .command, some template =>
      match CommandWords.split template with
      | .ok words => words
      | .error _ => []
  | _, _ => []

/- Prepare an action of a rule. -/
def Action.prepare
    (action : Action)
    (rule : String) : Prepared where
  rule := rule
  kind := action.kind
  parameters := action.parameters
  words := action.commandWords

------------------------------------------------------------
-- States Of Kinds
------------------------------------------------------------

/-
  Whether the store supports a kind, and how many actions of
  the kind succeeded and failed.
-/
structure KindState where
  supported : Bool
  applied : Nat := 0
  failed : Nat := 0
deriving DecidableEq

/- Count the outcome of one action. -/
def KindState.count
    (state : KindState)
    (success : Bool) : KindState :=
  if success then { state with applied := state.applied + 1 }
  else { state with failed := state.failed + 1 }

------------------------------------------------------------
-- Caches
------------------------------------------------------------

/-
  The prepared actions with the parts of the policy that they
  come from, and the states of the kinds that were set up.
-/
structure ActionCache where
  capabilities : Capabilities
  slots : List (Selection × Prepared) := []
  kinds : List (ActionKind × KindState) := []
  initializations : Nat := 0
  isReleased : Bool := false

namespace ActionCache

/- The state of a kind that was set up. -/
def state?
    (cache : ActionCache)
    (kind : ActionKind) : Option KindState :=
  cache.kinds.lookup kind

/- Set up a kind, unless that has been done. -/
def setUp
    (cache : ActionCache)
    (kind : ActionKind) : ActionCache :=
  match cache.state? kind with
  | some _ => cache
  | none =>
      { cache with
        kinds :=
          (kind,
            { supported :=
                kind.isSupported cache.capabilities }) ::
            cache.kinds
        initializations := cache.initializations + 1 }

/- Keep a prepared action, while the cache is in use. -/
def keep
    (cache : ActionCache)
    (selection : Selection)
    (prepared : Prepared) : ActionCache :=
  if cache.isReleased then cache
  else
    { cache with
      slots := (selection, prepared) :: cache.slots }

/- The action for what a policy selects for an entry. -/
def prepare
    (cache : ActionCache)
    (policy : Policy)
    (selection : Selection) :
    Option Prepared × ActionCache :=
  match policy.actionFor selection with
  | none => (none, cache)
  | some action =>
      match cache.slots.lookup selection with
      | some prepared => (some prepared, cache)
      | none =>
          let prepared :=
            action.prepare (policy.ruleName selection)
          (some prepared,
            (cache.setUp action.kind).keep selection
              prepared)

/- Count an outcome in the states of the kinds. -/
def countIn
    (kind : ActionKind)
    (success : Bool) :
    List (ActionKind × KindState) →
      List (ActionKind × KindState)
| [] => []
| (k, state) :: rest =>
    if k = kind then (k, state.count success) :: rest
    else (k, state) :: countIn kind success rest

/- Count the outcome of an action of a kind. -/
def record
    (cache : ActionCache)
    (kind : ActionKind)
    (success : Bool) : ActionCache :=
  { cache with kinds := countIn kind success cache.kinds }

/- The states of the kinds, in the order of reports. -/
def report
    (cache : ActionCache) : List (ActionKind × KindState) :=
  ActionKind.all.filterMap fun kind =>
    (cache.state? kind).map fun state => (kind, state)

/- Hand out the states once and forget everything. -/
def release
    (cache : ActionCache) :
    List (ActionKind × KindState) × ActionCache :=
  if cache.isReleased then ([], cache)
  else
    (cache.report,
      { cache with
        slots := []
        kinds := []
        isReleased := true })

end ActionCache

end TreeKeeper
