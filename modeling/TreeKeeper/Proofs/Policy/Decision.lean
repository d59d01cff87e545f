import TreeKeeper.Policy.Cache

/-
  Which action a policy decides on for an entry, and that the
  cache of a run hands out this very action: a prepared
  action that was kept for a part of the policy is what the
  part would be prepared to now.

  Key definitions include:
    * `Policy.Decides`
    * `Policy.prepared?`
    * `ActionCache.IsFaithful`

  Main declarations:
    * `Policy.decides_of_select`
    * `ActionCache.prepare_of_isFaithful`
    * `ActionCache.isFaithful_prepare`
-/

------------------------------------------------------------
-- Decisions
------------------------------------------------------------

namespace TreeKeeper

namespace Policy

/-
  The action of the first rule that admits an entry, or the
  fallback if there is none.
-/
inductive Decides
    (policy : Policy)
    (entry : Entry) : Action → Prop
| rule
    {before after : List Rule}
    {rule : Rule}
    (hRules : policy.rules = before ++ rule :: after)
    (hBefore : ∀ earlier ∈ before,
      Filter.admits earlier.filter entry = false)
    (hRule : Filter.admits rule.filter entry = true) :
    Decides policy entry rule.action
| fallback
    (hRules : ∀ rule ∈ policy.rules,
      Filter.admits rule.filter entry = false) :
    Decides policy entry policy.fallback

/- A place that is found is the first one that fits. -/
theorem exists_split_of_findIdx?
    {α : Type}
    {test : α → Bool}
    {items : List α}
    {index : Nat}
    (hFound : items.findIdx? test = some index) :
    ∃ before item after,
      items = before ++ item :: after ∧
      items[index]? = some item ∧
      (∀ earlier ∈ before, test earlier = false) ∧
      test item = true := by
  induction items generalizing index with
  | nil => exact nomatch hFound
  | cons first rest ih =>
      rw [List.findIdx?_cons] at hFound
      by_cases hFirst : test first = true
      · rw [if_pos hFirst] at hFound
        cases hFound
        exact ⟨[], first, rest, rfl, rfl,
          List.forall_mem_nil _, hFirst⟩
      · rw [if_neg hFirst] at hFound
        rcases Option.map_eq_some_iff.1 hFound with
          ⟨i, hIndex, rfl⟩
        rcases ih hIndex with
          ⟨before, item, after, hRest, hItem, hBefore,
            hTest⟩
        refine ⟨first :: before, item, after, ?_, ?_, ?_,
          hTest⟩
        · rw [hRest]
          rfl
        · rw [List.getElem?_cons_succ]
          exact hItem
        · exact List.forall_mem_cons.2
            ⟨eq_false_of_ne_true hFirst, hBefore⟩

theorem actionFor_matched
    (policy : Policy)
    (index : Nat) :
    policy.actionFor (.matched index) =
      (policy.rules[index]?).map Rule.action :=
  rfl

/- The action for a selection is what the policy decides. -/
theorem decides_of_select
    {policy : Policy}
    {entry : Entry}
    {action : Action}
    (hAction : policy.actionFor (policy.select entry) =
      some action) :
    Filter.admits policy.filter entry = true ∧
      policy.Decides entry action := by
  unfold select at hAction
  split at hAction
  · rename_i hFilter
    refine ⟨hFilter, ?_⟩
    split at hAction
    · rename_i index hFound
      rcases exists_split_of_findIdx? hFound with
        ⟨before, rule, after, hRules, hIndex, hBefore,
          hRule⟩
      rw [actionFor_matched, hIndex] at hAction
      cases hAction
      exact .rule hRules hBefore hRule
    · rename_i hNone
      cases hAction
      exact .fallback (List.findIdx?_eq_none_iff.1 hNone)
  · exact nomatch hAction

/- What a part of a policy is prepared to. -/
def prepared?
    (policy : Policy)
    (selection : Selection) : Option Prepared :=
  (policy.actionFor selection).map fun action =>
    action.prepare (policy.ruleName selection)

end Policy

------------------------------------------------------------
-- Caches
------------------------------------------------------------

namespace ActionCache

/-
  Whether a cache keeps what the parts of a policy are
  prepared to and nothing else.
-/
def IsFaithful
    (cache : ActionCache)
    (policy : Policy) : Prop :=
  ∀ selection prepared,
    cache.slots.lookup selection = some prepared →
      policy.prepared? selection = some prepared

variable {cache : ActionCache} {policy : Policy}

theorem isFaithful_of_slots_eq_nil
    (hSlots : cache.slots = []) :
    cache.IsFaithful policy := by
  intro selection prepared hLookup
  rw [hSlots] at hLookup
  exact nomatch hLookup

theorem setUp_slots
    (cache : ActionCache)
    (kind : ActionKind) :
    (cache.setUp kind).slots = cache.slots := by
  unfold setUp
  split <;> rfl

/- Keeping what a part is prepared to is faithful. -/
theorem isFaithful_keep
    {selection : Selection}
    {prepared : Prepared}
    (hCache : cache.IsFaithful policy)
    (hPrepared : policy.prepared? selection =
      some prepared) :
    (cache.keep selection prepared).IsFaithful policy := by
  unfold keep
  split
  · exact hCache
  · intro other found hLookup
    rw [List.lookup_cons] at hLookup
    split at hLookup
    · rename_i hSame
      cases hLookup
      rw [eq_of_beq hSame]
      exact hPrepared
    · exact hCache other found hLookup

/- A faithful cache hands out what it would prepare. -/
theorem prepare_of_isFaithful
    (hCache : cache.IsFaithful policy)
    (selection : Selection) :
    (cache.prepare policy selection).1 =
      policy.prepared? selection := by
  unfold prepare
  cases hAction : policy.actionFor selection with
  | none =>
      unfold Policy.prepared?
      rw [hAction]
      rfl
  | some action =>
      cases hLookup : cache.slots.lookup selection with
      | none =>
          unfold Policy.prepared?
          rw [hAction]
          rfl
      | some prepared =>
          exact (hCache selection prepared hLookup).symm

theorem isFaithful_prepare
    (hCache : cache.IsFaithful policy)
    (selection : Selection) :
    (cache.prepare policy selection).2.IsFaithful
      policy := by
  unfold prepare
  cases hAction : policy.actionFor selection with
  | none => exact hCache
  | some action =>
      cases hLookup : cache.slots.lookup selection with
      | some prepared => exact hCache
      | none =>
          have hPrepared :
              policy.prepared? selection =
                some (action.prepare
                  (policy.ruleName selection)) := by
            unfold Policy.prepared?
            rw [hAction]
            rfl
          have hSetUp :
              (cache.setUp action.kind).IsFaithful
                policy := by
            unfold IsFaithful
            rw [setUp_slots]
            exact hCache
          exact isFaithful_keep hSetUp hPrepared

end ActionCache

end TreeKeeper
