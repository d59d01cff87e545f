import TreeKeeper.CommandLine.Run
import TreeKeeper.Proofs.Policy.Ending
import TreeKeeper.Proofs.Policy.Reading
import TreeKeeper.Proofs.Search.Misuse
import TreeKeeper.Proofs.Search.Regularity

/-
  Everything that is handed to stores.  The filters of a
  policy are read with the predicates that are always there
  and those of tiers and classes, and a run hands over the
  filter of its policy.  Together with what searches hand
  over this is all that a store is ever asked to select by.

  Key definitions include:
    * `Policy.filters`

  Main declarations:
    * `Policy.wellFormed_of_ofText`
    * `Policy.handsRegular_run`
    * `RunCommand.standard_registry`
    * `Registry.handsRegular_of_standard`
-/

------------------------------------------------------------
-- Policies
------------------------------------------------------------

namespace TreeKeeper

namespace Policy

/- The filters of a policy and of its rules. -/
def filters (policy : Policy) : List Filter :=
  policy.filter.toList ++ policy.rules.filterMap Rule.filter

variable {context : Context}

/- Classes that are read are compiled one after the other. -/
theorem compiled_of_readClasses
    {classes all : List (String × Filter)}
    {declared : List (Yaml.Value × Yaml.Value)}
    (hStandard : context.registry.Standard)
    (hClasses : Registry.Compiled classes)
    (hRead : readClasses context classes declared = .ok all) :
    Registry.Compiled all := by
  induction declared generalizing classes with
  | nil =>
      cases hRead
      exact hClasses
  | cons written rest ih =>
      rcases readClasses_cons_eq_ok_iff.1 hRead with
        ⟨name, words, filter, _, hCompile, hRest⟩
      have hFirst :
          Registry.Compiled ((name, filter) :: classes) :=
        .cons (.classes hStandard hClasses) hCompile hClasses
      exact ih hFirst hRest

theorem wellFormed_of_readFilter
    {owner : String}
    {text : Option FilterText}
    {filter : Option Filter}
    {sorts : List SortKey}
    (hSound : context.registry.Sound)
    (hRead :
      readFilter context owner text = .ok (filter, sorts)) :
    ∀ f ∈ filter, f.WellFormed := by
  intro f hFilter
  rw [Option.mem_def.1 hFilter] at hRead
  cases text with
  | none => exact nomatch hRead
  | some text =>
      rcases readFilter_eq_ok_iff.1 hRead with
        ⟨words, _, hCompile⟩
      exact Expression.wellFormed_of_compile hSound hCompile

theorem wellFormed_of_readRules
    {number : Nat}
    {texts : List RuleText}
    {rules : List Rule}
    (hSound : context.registry.Sound)
    (hRead : readRules context number texts = .ok rules) :
    ∀ rule ∈ rules, ∀ filter ∈ rule.filter,
      filter.WellFormed := by
  have hRules := forall₂_of_readRules hRead
  clear hRead
  induction hRules with
  | nil => exact List.forall_mem_nil _
  | cons hFirst _ ih =>
      rcases hFirst with ⟨place, hRule⟩
      exact List.forall_mem_cons.2
        ⟨wellFormed_of_readFilter hSound
            (readFilter_of_readRule hRule), ih⟩

/- A policy that is read has well-formed filters only. -/
theorem wellFormed_of_ofText
    {text : String}
    {policy : Policy}
    (hStandard : context.registry.Standard)
    (hRead : ofText context text = .ok policy) :
    ∀ filter ∈ policy.filters, filter.WellFormed := by
  unfold ofText at hRead
  split at hRead
  · exact nomatch hRead
  · rename_i document hDocument
    rcases exists_of_ofDocument hRead with
      ⟨classes, hClasses, hFilter, _, hRules⟩
    have hCompiled : Registry.Compiled classes :=
      compiled_of_readClasses hStandard .nil hClasses
    have hSound :
        (context.withClasses classes).registry.Sound :=
      (Registry.Standard.classes hStandard hCompiled).sound
    intro filter hMember
    rcases List.mem_append.1 hMember with hOwn | hOfRule
    · exact wellFormed_of_readFilter hSound hFilter filter
        (Option.mem_toList.1 hOwn)
    · rcases List.mem_filterMap.1 hOfRule with
        ⟨rule, hRule, hSome⟩
      exact wellFormed_of_readRules hSound hRules rule hRule
        filter hSome

------------------------------------------------------------
-- Runs
------------------------------------------------------------

variable {β γ κ μ : Type}
variable [Store β κ] [Store γ μ]

/- While entries are handled no store is handed a filter. -/
theorem filter?_of_handles
    {policy : Policy}
    {dryRun : Bool}
    {course : Course β γ}
    {stale : Entry}
    {events : List (Event Side)}
    (hHandles :
      Course.Handles policy dryRun course stale events) :
    ∀ event ∈ events, event.filter? = none := by
  apply hHandles.forall_events fun event =>
    event.filter? = none
  · rfl
  · exact fun _ _ => rfl
  · intro prepared entry deed hDeed _
    apply hDeed.forall_events fun event =>
      event.filter? = none
    · exact fun _ _ => rfl
    · exact fun _ _ _ => rfl
    · exact fun _ _ => rfl

/- A run hands over the filter of its policy and no other. -/
theorem handsRegular_run
    {policy : Policy}
    (hPolicy : ∀ filter ∈ policy.filter, filter.IsRegular)
    (launch : Launcher)
    (options : QueryOptions)
    (stage : Stage β γ) :
    HandsRegular stage.events
      (policy.run launch options stage).2.events := by
  rcases exists_reads_of_run policy launch options stage with
    ⟨fault, stats, before, hReads, hRun⟩
  let regular (event : Event Side) : Prop :=
    ∀ filter ∈ event.filter?, filter.IsRegular
  have hBefore : stage.Adds regular before := by
    apply adds_of_reads _ _ hReads
    · exact fun _ => hPolicy
    · intro course stale events hHandles event hEvent filter
        hFilter
      rw [filter?_of_handles hHandles event hEvent] at hFilter
      exact nomatch hFilter
  have hClosing :
      before.Adds regular
        (policy.close fault stats before).2 := by
    refine ⟨_, events_close policy fault stats before, ?_⟩
    simp [Stage.flushing, regular, Event.filter?]
  rcases hBefore.trans hClosing with
    ⟨events, hEvents, hRegular⟩
  rw [hRun]
  exact handsRegular_of_append hEvents hRegular

end Policy

/- The predicates of a policy on opened stores. -/
theorem RunCommand.standard_registry
    (index live : OpenedStore) :
    (RunCommand.registry index live).Standard :=
  (Registry.Standard.builtin.registerAll_predicates
    index).registerAll_predicates live

------------------------------------------------------------
-- All Filters
------------------------------------------------------------

namespace Registry

variable {β γ δ κ μ ν : Type}
variable [Store β κ] [Store γ μ] [Store δ ν]

/-
  Over the predicates that are always there and those of
  tiers and classes, at whatever time: an expression asks for
  a regular filter, all filters of a policy are regular, and
  neither the run of a policy nor a search, whatever it
  combines for its actions, hands any other filter to a
  store.
-/
theorem handsRegular_of_standard
    {registry : Registry}
    (hStandard : registry.Standard)
    (now : Int64) :
    (∀ args filter sorts,
      Expression.compile registry now args =
          .ok (some filter, sorts) →
        filter.IsRegular) ∧
    (∀ text policy,
      Policy.ofText ⟨registry, now⟩ text = .ok policy →
        (∀ filter ∈ policy.filters, filter.IsRegular) ∧
        ∀ launch options (stage : Stage β γ),
          HandsRegular stage.events
            (policy.run launch options stage).2.events) ∧
    ∀ args (search : Search δ),
      Search.registry search.stores = registry →
        HandsRegular search.events
          (Search.run args search).2.events := by
  refine ⟨?_, ?_, ?_⟩
  · intro args filter sorts hCompile
    have hWellFormed :=
      Expression.wellFormed_of_compile hStandard.sound
        hCompile
    exact hWellFormed.isRegular
  · intro text policy hRead
    have hFilters :
        ∀ filter ∈ policy.filters, filter.IsRegular := by
      intro filter hFilter
      have hWellFormed :=
        Policy.wellFormed_of_ofText hStandard hRead filter
          hFilter
      exact hWellFormed.isRegular
    refine ⟨hFilters, ?_⟩
    apply Policy.handsRegular_run
    intro filter hFilter
    apply hFilters filter
    exact List.mem_append_left _
      (Option.mem_toList.2 hFilter)
  · rintro args search rfl
    exact Search.handsRegular_run hStandard.sound args

/-
  A filter on a tier, a policy with a class and a rule, and a
  search whose second action is handed a negation as well.
-/
theorem handsRegular_of_standard_tier :
    let registry := Search.registry Search.oneFile.stores
    let tier : Filter :=
      .compare (.xattr "user.tier") .equal (.string "0")
    let text :=
      "fileclasses:\n  big: -size +1M\n" ++
        "name: x\nfilter: -type f\n" ++
          "rules:\n- filter: '! -class big'\n" ++
            "  action: 'common:log'\n"
    let args :=
      ["-size", "+1k", "-print", "-o", "-tier", "0", "-count"]
    let after := (Search.run args Search.oneFile).2
    (Expression.compile registry 0 ["!", "-tier", "0"] =
        .ok (some (.not tier), []) ∧
      (Filter.not tier).IsRegular) ∧
    (∃ policy,
      Policy.ofText ⟨registry, 0⟩ text = .ok policy ∧
      policy.filters.length = 2 ∧
      ∀ filter ∈ policy.filters, filter.IsRegular) ∧
    (handed after.events).map Filter.display =
      ["-compare size > 1024",
        "! -compare size > 1024 -and " ++
          "-compare xattr:user.tier == 0"] ∧
    HandsRegular Search.oneFile.events after.events := by
  intro registry tier text args after
  have hStandard : registry.Standard := .tier .builtin
  rcases @handsRegular_of_standard Snapshot Snapshot Snapshot
      _ _ _ _ _ _ registry hStandard 0 with
    ⟨hCompile, hPolicy, hSearch⟩
  have hTier :
      Expression.compile registry 0 ["!", "-tier", "0"] =
        .ok (some (.not tier), []) := by
    rfl
  have hLength :
      (Policy.ofText ⟨registry, 0⟩ text).toOption.map
          (fun policy => policy.filters.length) =
        some 2 := by
    decide +kernel
  rcases Option.map_eq_some_iff.1 hLength with
    ⟨policy, hRead, hTwo⟩
  rw [toOption_eq_some_iff] at hRead
  have hDisplay :
      (handed after.events).map Filter.display =
        ["-compare size > 1024",
          "! -compare size > 1024 -and " ++
            "-compare xattr:user.tier == 0"] := by
    decide +kernel
  exact ⟨⟨hTier, hCompile _ _ _ hTier⟩,
    ⟨policy, hRead, hTwo, (hPolicy text policy hRead).1⟩,
    hDisplay, hSearch args Search.oneFile rfl⟩

end Registry

end TreeKeeper
