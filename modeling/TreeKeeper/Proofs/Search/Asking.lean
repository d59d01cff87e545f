import TreeKeeper.Proofs.Search.Commands
import TreeKeeper.Proofs.Search.Misuse

/-
  What searches ask of their stores.  An action asks all of
  them for the matches of its filter, one after the other,
  and does not go on to the next one where it fails or where
  it has found what it looks for.  A command thus asks for
  just the entries that its actions concern.

  Key definitions include:
    * `Question`
    * `Search.asked`
    * `Search.Asks`

  Main declarations:
    * `Search.asks_perform`
    * `Search.asks_run`
    * `Search.run_of_command`
-/

------------------------------------------------------------
-- Questions
------------------------------------------------------------

namespace TreeKeeper

/- A query on the store at a place. -/
structure Question where
  place : Nat
  filter : Option Filter
  options : QueryOptions

/- The question that an event answers. -/
def Event.question? : Event Nat → Option Question
| .called place (.query filter options) _ =>
    some ⟨place, filter, options⟩
| _ => none

namespace Search

open Expression

variable {β κ : Type}

/- All questions so far, in their order. -/
def asked (search : Search β) : List Question :=
  search.events.filterMap Event.question?

/- What leaves no events asks no questions. -/
theorem asked_eq_of_events
    {before after : Search β}
    (hEvents : after.events = before.events) :
    after.asked = before.asked :=
  congrArg (List.filterMap Event.question?) hEvents

/- One question to each of the stores. -/
def questions
    (filter : Option Filter)
    (options : QueryOptions)
    (stores : List (β × Nat)) : List Question :=
  stores.map fun store => ⟨store.2, filter, options⟩

theorem questions_cons
    (filter : Option Filter)
    (options : QueryOptions)
    (store : β)
    (place : Nat)
    (rest : List (β × Nat)) :
    questions filter options ((store, place) :: rest) =
      [⟨place, filter, options⟩] ++
        questions filter options rest :=
  rfl

------------------------------------------------------------
-- Steps Without Questions
------------------------------------------------------------

theorem events_put
    (search : Search β)
    (text : String) :
    (search.put text).2.events = search.events := by
  cases hFile : search.file with
  | none =>
      rcases put_of_output hFile text with ⟨_, hPut⟩
      rw [hPut]
  | some file =>
      rcases put_of_file hFile text with ⟨_, _, hPut⟩
      rw [hPut]

theorem events_putAll
    (search : Search β)
    (texts : List String) :
    (search.putAll texts).2.events = search.events := by
  induction texts generalizing search with
  | nil => rfl
  | cons text rest ih =>
      have hPut := events_put search text
      unfold putAll
      generalize search.put text = written at hPut ⊢
      rcases written with ⟨isComplete, after⟩
      cases isComplete with
      | false => exact hPut
      | true => exact (ih after).trans hPut

theorem events_putEntry
    (search : Search β)
    (rendering : Rendering)
    (entry : Entry) :
    (search.putEntry rendering entry).2.events =
      search.events := by
  unfold putEntry
  split
  · exact events_putAll search _
  · rfl

theorem events_openFile
    (search : Search β)
    (path : String) :
    (search.openFile path).2.events = search.events := by
  rcases openFile_cases search path with
    hOpen | ⟨_, _, hOpen⟩
  · rw [hOpen]
  · rw [hOpen]

theorem events_closeFile
    (search : Search β) :
    search.closeFile.events = search.events := by
  rcases closeFile_eq search with ⟨_, hClose⟩
  rw [hClose]

variable [Store β κ]

theorem events_writeFrom
    (rendering : Rendering)
    (steps : Nat)
    (cursor : κ)
    (search : Search β) :
    (writeFrom rendering steps cursor search).2.events =
      search.events := by
  induction steps generalizing cursor search with
  | zero => rfl
  | succ steps ih =>
      unfold writeFrom
      generalize Store.fetch β cursor search.world = fetched
      rcases fetched with ⟨fetched, next, world⟩
      cases fetched with
      | finished => rfl
      | failed fault => rfl
      | again => exact ih next (search.withWorld world)
      | entry entry =>
          have hPut :=
            events_putEntry (search.withWorld world)
              rendering entry
          dsimp only
          generalize (search.withWorld world).putEntry
            rendering entry = written at hPut ⊢
          rcases written with ⟨fault, after⟩
          cases fault with
          | some fault => exact hPut
          | none => exact (ih next after).trans hPut

theorem events_collectFrom
    (steps : Nat)
    (cursor : κ)
    (search : Search β) :
    (collectFrom steps cursor search).2.events =
      search.events := by
  induction steps generalizing cursor search with
  | zero => rfl
  | succ steps ih =>
      unfold collectFrom
      generalize Store.fetch β cursor search.world = fetched
      rcases fetched with ⟨fetched, next, world⟩
      cases fetched with
      | finished => rfl
      | failed fault => rfl
      | again => exact ih next (search.withWorld world)
      | entry entry => exact ih next (search.withWorld world)

theorem asked_removeEntry
    (search : Search β)
    (place : Nat)
    (store : β)
    (entry : Entry) :
    (search.removeEntry place store entry).2.asked =
      search.asked := by
  rcases removeEntry_eq search place store entry with
    ⟨_, _, _, _, hRemove⟩
  rw [hRemove]
  simp [asked, Event.question?]

theorem asked_removeEntries
    (place : Nat)
    (store : β)
    (entries : List Entry)
    (search : Search β) :
    (removeEntries place store entries search).asked =
      search.asked := by
  induction entries generalizing store search with
  | nil => rfl
  | cons entry rest ih =>
      unfold removeEntries
      split
      · exact ih store search
      · exact (ih _ _).trans
          (asked_removeEntry search place store entry)

theorem asked_flush
    (stores : List (β × Nat))
    (search : Search β) :
    (flush stores search).2.asked = search.asked := by
  induction stores generalizing search with
  | nil => rfl
  | cons first rest ih =>
      rcases first with ⟨store, place⟩
      unfold flush
      generalize Store.flush store search.world = flushed
      rcases flushed with ⟨result, later, world⟩
      have hRecord :
          ({ search with
              world := world
              stores := search.stores.set place
                later }.record
            (.called place .flush
              (succeeded result))).asked =
            search.asked := by
        simp [asked, record, Event.question?]
      cases result with
      | error fault => exact hRecord
      | ok done => exact (ih _).trans hRecord

theorem asked_finishStores
    (search : Search β) :
    search.finishStores.2.asked = search.asked := by
  have hFlush := asked_flush search.stores.zipIdx search
  unfold finishStores
  generalize flush search.stores.zipIdx search = flushed
    at hFlush ⊢
  rcases flushed with ⟨fault, after⟩
  cases fault with
  | some fault => exact hFlush
  | none =>
      dsimp only
      split <;> exact hFlush

theorem asked_finish
    (search : Search β) :
    search.finish.2.asked = search.asked := by
  rw [finish_eq]
  split
  · exact asked_finishStores _
  · rfl

/- A query asks one question, whether it succeeds or not. -/
theorem asked_query
    (search : Search β)
    (place : Nat)
    (store : β)
    (filter : Option Filter)
    (options : QueryOptions) :
    (search.query place store filter options).2.asked =
      search.asked ++ [⟨place, filter, options⟩] := by
  unfold query asked record
  simp [withWorld, Event.question?]

------------------------------------------------------------
-- Asking One Question After The Other
------------------------------------------------------------

/-
  Whether questions are asked in their order, and nothing
  else.  Some of them may be left, unless the asking is done.
-/
def Asks
    (questions : List Question)
    (before after : Search β)
    (isDone : Prop) : Prop :=
  ∃ asked,
    asked <+: questions ∧
    after.asked = before.asked ++ asked ∧
    (isDone → asked = questions)

namespace Asks

variable {first second : List Question}
variable {before between after : Search β}
variable {isOver isDone : Prop}

theorem nil
    (hAsked : after.asked = before.asked) :
    Asks [] before after isDone :=
  ⟨[], List.prefix_rfl, by simp [hAsked], fun _ => rfl⟩

theorem single
    {question : Question}
    (hAsked : after.asked = before.asked ++ [question]) :
    Asks [question] before after isDone :=
  ⟨[question], List.prefix_rfl, hAsked, fun _ => rfl⟩

/- What asks nothing more changes nothing. -/
theorem quiet
    {later : Search β}
    (hAsks : Asks first before after isDone)
    (hAsked : later.asked = after.asked) :
    Asks first before later isDone := by
  rcases hAsks with ⟨asked, hFirst, hAfter, hDone⟩
  exact ⟨asked, hFirst, hAsked.trans hAfter, hDone⟩

theorem mono
    (hAsks : Asks first before after isOver)
    (hOver : isDone → isOver) :
    Asks first before after isDone := by
  rcases hAsks with ⟨asked, hFirst, hAfter, hAll⟩
  exact ⟨asked, hFirst, hAfter, fun hDone =>
    hAll (hOver hDone)⟩

/- Further questions may be left. -/
theorem stop
    (hAsks : Asks first before after isOver)
    (hNot : ¬ isDone) :
    Asks (first ++ second) before after isDone := by
  rcases hAsks with ⟨asked, hFirst, hAfter, _⟩
  have hFront : asked <+: first ++ second :=
    hFirst.trans (List.prefix_append first second)
  exact ⟨asked, hFront, hAfter, fun hDone =>
    absurd hDone hNot⟩

/- Further questions follow those that are asked. -/
theorem append
    (hFirst : Asks first before between isOver)
    (hOver : isOver)
    (hSecond : Asks second between after isDone) :
    Asks (first ++ second) before after isDone := by
  rcases hFirst with ⟨asked, _, hBetween, hAll⟩
  rcases hSecond with ⟨more, hMore, hAfter, hDone⟩
  have hAsked : asked = first := hAll hOver
  rw [hAsked] at hBetween
  refine ⟨first ++ more, ?_, ?_, ?_⟩
  · exact (List.prefix_append_right_inj first).2 hMore
  · rw [hAfter, hBetween, List.append_assoc]
  · intro hIsDone
    rw [hDone hIsDone]

end Asks

------------------------------------------------------------
-- Matches
------------------------------------------------------------

section Matches

variable (filter : Option Filter) (options : QueryOptions)

theorem asks_collect
    (search : Search β)
    (place : Nat)
    (store : β)
    (isDone : Prop) :
    Asks [⟨place, filter, options⟩] search
      (search.collect place store filter options).2
      isDone := by
  have hQuery :=
    asked_query search place store filter options
  apply Asks.single
  unfold collect
  generalize search.query place store filter options = answer
    at hQuery ⊢
  rcases answer with ⟨result, after⟩
  cases result with
  | error fault => exact hQuery
  | ok cursor =>
      have hEvents :=
        events_collectFrom
          (Store.bound β cursor after.world + 1) cursor after
      exact (asked_eq_of_events hEvents).trans hQuery

theorem asks_writeMatches
    (rendering : Rendering)
    (stores : List (β × Nat))
    (search : Search β) :
    let written :=
      writeMatches filter options rendering stores search
    Asks (questions filter options stores) search written.2
      (written.1 = none) := by
  induction stores generalizing search with
  | nil => exact .nil rfl
  | cons first rest ih =>
      rcases first with ⟨store, place⟩
      have hQuery :=
        asked_query search place store filter options
      rw [questions_cons]
      unfold writeMatches
      generalize search.query place store filter options =
        answer at hQuery ⊢
      rcases answer with ⟨result, asking⟩
      cases result with
      | error fault =>
          have hFirst :
              Asks [⟨place, filter, options⟩] search asking
                True :=
            .single hQuery
          apply hFirst.stop
          intro hNone
          cases hNone
      | ok cursor =>
          have hEvents :=
            events_writeFrom rendering
              (Store.bound β cursor asking.world + 1) cursor
              asking
          dsimp only
          generalize writeFrom rendering
            (Store.bound β cursor asking.world + 1) cursor
              asking = written at hEvents ⊢
          rcases written with ⟨fault, after⟩
          have hFirst :
              Asks [⟨place, filter, options⟩] search after
                True := by
            apply (Asks.single hQuery).quiet
            exact asked_eq_of_events hEvents
          cases fault with
          | some fault =>
              apply hFirst.stop
              intro hNone
              cases hNone
          | none => exact hFirst.append trivial (ih after)

theorem asks_countMatches
    (stores : List (β × Nat))
    (search : Search β) :
    let counted := countMatches filter options stores search
    Asks (questions filter options stores) search counted.2
      (∃ count, counted.1 = .ok count) := by
  induction stores generalizing search with
  | nil => exact .nil rfl
  | cons first rest ih =>
      rcases first with ⟨store, place⟩
      have hCollect :=
        asks_collect filter options search place store True
      rw [questions_cons]
      unfold countMatches
      generalize search.collect place store filter options =
        collected at hCollect ⊢
      rcases collected with ⟨result, after⟩
      cases result with
      | error fault =>
          apply hCollect.stop
          rintro ⟨_, hCount⟩
          cases hCount
      | ok entries =>
          apply hCollect.append trivial
          apply (ih after).mono
          rintro ⟨count, hCount⟩
          rcases map_eq_ok_iff.1 hCount with ⟨n, hRest, _⟩
          exact ⟨n, hRest⟩

theorem asks_hasMatch
    (stores : List (β × Nat))
    (search : Search β) :
    let found := hasMatch filter options stores search
    Asks (questions filter options stores) search found.2
      (found.1 = .ok false) := by
  induction stores generalizing search with
  | nil => exact .nil rfl
  | cons first rest ih =>
      rcases first with ⟨store, place⟩
      have hCollect :=
        asks_collect filter options search place store True
      rw [questions_cons]
      unfold hasMatch
      generalize search.collect place store filter options =
        collected at hCollect ⊢
      rcases collected with ⟨result, after⟩
      cases result with
      | error fault =>
          apply hCollect.stop
          intro hNone
          cases hNone
      | ok entries =>
          cases entries with
          | nil => exact hCollect.append trivial (ih after)
          | cons entry others =>
              apply hCollect.stop
              intro hNone
              cases hNone

theorem asks_deleteMatches
    (stores : List (β × Nat))
    (search : Search β) :
    let deleted := deleteMatches filter options stores search
    Asks (questions filter options stores) search deleted.2
      (deleted.1 = none) := by
  induction stores generalizing search with
  | nil => exact .nil rfl
  | cons first rest ih =>
      rcases first with ⟨store, place⟩
      have hCollect :=
        asks_collect filter options search place store True
      rw [questions_cons]
      unfold deleteMatches
      generalize search.collect place store filter options =
        collected at hCollect ⊢
      rcases collected with ⟨result, after⟩
      cases result with
      | error fault =>
          apply hCollect.stop
          intro hNone
          cases hNone
      | ok entries =>
          have hRemove :=
            asked_removeEntries place store
              (deepestFirst entries) after
          exact (hCollect.quiet hRemove).append trivial
            (ih _)

end Matches

------------------------------------------------------------
-- Deeds
------------------------------------------------------------

/- What a deed asks of as many stores. -/
def Deed.questions
    (deed : Deed)
    (count : Nat) : List Question :=
  (List.range count).map fun place =>
    ⟨place, deed.filter,
      { one := deed.action.isQuit, sorts := deed.sorts }⟩

theorem questions_zipIdx
    (filter : Option Filter)
    (options : QueryOptions)
    (stores : List β) :
    questions filter options stores.zipIdx =
      (List.range stores.length).map
        fun place => ⟨place, filter, options⟩ := by
  have hPlaces := List.zipIdx_map_snd 0 stores
  unfold questions
  rw [List.range_eq_range', ← hPlaces, List.map_map]
  rfl

theorem fst_goOn
    {result : Option SearchFault × Search β}
    (hGoOn : (goOn result).1 = .ok false) :
    result.1 = none := by
  rcases result with ⟨fault, after⟩
  cases fault with
  | none => rfl
  | some fault => exact nomatch hGoOn

theorem asks_executeWrite
    (filter : Option Filter)
    (options : QueryOptions)
    (rendering : Rendering)
    (file : Option String)
    (search : Search β) :
    let written :=
      executeWrite filter options rendering file search
    Asks (questions filter options search.stores.zipIdx)
      search written.2 (written.1 = none) := by
  cases file with
  | none =>
      exact asks_writeMatches filter options rendering _
        search
  | some path =>
      have hOpened := events_openFile search path
      have hStores :
          (search.openFile path).2.stores =
            search.stores := by
        rcases openFile_cases search path with
          hOpen | ⟨_, _, hOpen⟩
        · rw [hOpen]
        · rw [hOpen]
      unfold executeWrite
      dsimp only
      generalize search.openFile path = opening
        at hOpened hStores ⊢
      rcases opening with ⟨fault, opened⟩
      have hNothing : Asks [] search opened True :=
        .nil (asked_eq_of_events hOpened)
      rw [← hStores]
      cases fault with
      | some fault =>
          exact hNothing.stop nofun
      | none =>
          have hWrite :=
            asks_writeMatches filter options rendering
              opened.stores.zipIdx opened
          have hClose :=
            events_closeFile
              (writeMatches filter options rendering
                opened.stores.zipIdx opened).2
          exact hNothing.append trivial
            (hWrite.quiet (asked_eq_of_events hClose))

/-
  A deed asks every store for what its filter accepts, as far
  as it comes.
-/
theorem asks_perform
    (deed : Deed)
    (search : Search β) :
    Asks (deed.questions search.stores.length) search
      (deed.perform search).2
      ((deed.perform search).1 = .ok false) := by
  rcases deed with ⟨filter, sorts, action⟩
  unfold Deed.questions Deed.perform
  rw [← questions_zipIdx]
  cases action with
  | write file rendering =>
      have hWrite :=
        asks_executeWrite filter
          { one := false, sorts := sorts } rendering file
          search
      unfold execute
      dsimp only [SearchAction.isQuit]
      rw [goOn_snd]
      exact hWrite.mono fst_goOn
  | count =>
      have hCount :=
        asks_countMatches filter
          { one := false, sorts := sorts }
          search.stores.zipIdx search
      unfold execute
      dsimp only [SearchAction.isQuit]
      generalize countMatches filter
        { one := false, sorts := sorts } search.stores.zipIdx
          search = counted at hCount ⊢
      rcases counted with ⟨result, after⟩
      cases result with
      | error fault => exact hCount.mono nofun
      | ok count =>
          dsimp only
          rw [reportCount_snd]
          have hPut := events_putAll after [countLine count]
          apply (hCount.quiet (asked_eq_of_events hPut)).mono
          exact fun _ => ⟨count, rfl⟩
  | delete =>
      have hDelete :=
        asks_deleteMatches filter
          { one := false, sorts := sorts }
          search.stores.zipIdx search
      unfold execute
      dsimp only [SearchAction.isQuit]
      rw [goOn_snd]
      exact hDelete.mono fst_goOn
  | quit =>
      exact asks_hasMatch filter
        { one := true, sorts := sorts } _ search

/- No step changes how many stores there are. -/
theorem length_stores_of_step
    {kind : StepKind}
    {first second : Search β}
    (hStep : Step kind first second) :
    second.stores.length = first.stores.length := by
  by_cases hKind : kind = .removing
  · rw [hKind] at hStep
    cases hStep with
    | remove search place store entry =>
        unfold removeEntry
        dsimp only
        split <;> simp [record]
  · rw [(keeps_of_step hStep).stores hKind]

theorem Steps.length_stores
    {allowed : StepKind → Prop}
    {first second : Search β}
    (hSteps : Steps allowed first second) :
    second.stores.length = first.stores.length := by
  induction hSteps with
  | refl => rfl
  | tail _ _ hStep ih =>
      exact (length_stores_of_step hStep).trans ih

theorem length_stores_perform
    (deed : Deed)
    (search : Search β) :
    (deed.perform search).2.stores.length =
      search.stores.length :=
  (steps_execute deed.filter deed.sorts deed.action
    search).length_stores

/- Deeds ask one after the other, as far as they come. -/
theorem asks_performAll
    (last : Option SearchFault)
    (deeds : List Deed)
    (search : Search β) :
    Asks (deeds.flatMap (·.questions search.stores.length))
      search (performAll last deeds search).2
      (∃ after, Completes deeds search after) := by
  induction deeds generalizing search with
  | nil => exact .nil rfl
  | cons deed rest ih =>
      have hDeed := asks_perform deed search
      have hLength := length_stores_perform deed search
      rw [List.flatMap_cons]
      unfold performAll
      cases hPerform : deed.perform search with
      | mk ending between =>
          rw [hPerform] at hDeed hLength
          dsimp only at hDeed hLength ⊢
          have hGoesOn :
              (∃ after,
                Completes (deed :: rest) search after) →
                ending = .ok false ∧
                ∃ after, Completes rest between after := by
            rintro ⟨after, hAll⟩
            cases hAll with
            | cons hFirst hRest =>
                rw [hPerform] at hFirst
                cases hFirst
                exact ⟨rfl, after, hRest⟩
          cases ending with
          | error fault =>
              apply hDeed.stop
              intro hAll
              cases (hGoesOn hAll).1
          | ok ends =>
              cases ends with
              | true =>
                  apply hDeed.stop
                  intro hAll
                  cases (hGoesOn hAll).1
              | false =>
                  rw [← hLength] at hDeed ⊢
                  apply hDeed.append rfl
                  apply (ih between).mono
                  intro hAll
                  exact (hGoesOn hAll).2

------------------------------------------------------------
-- Commands
------------------------------------------------------------

/- A search asks what its plan asks, as far as it comes. -/
theorem asks_run
    (args : List String)
    (search : Search β) :
    let planned :=
      plan (registry search.stores) search.now args
    Asks
      (planned.deeds.flatMap
        (·.questions search.stores.length))
      search (run args search).2
      (∃ after, Completes planned.deeds search after) := by
  intro planned
  have hDeeds :=
    asks_performAll planned.fault planned.deeds search
  rw [run_eq_perform]
  unfold Plan.perform
  dsimp only [planned] at hDeeds ⊢
  generalize performAll _ _ search = performed at hDeeds ⊢
  rcases performed with ⟨fault, after⟩
  cases fault with
  | some fault => exact hDeeds
  | none => exact hDeeds.quiet (asked_finish after)

/-
  A command performs one deed after the other, one for each
  of its actions that can be executed.  Each deed asks every
  store for just the entries that its action concerns, unless
  it fails or ends the command before, and nothing else is
  asked for.
-/
theorem run_of_command
    {args : List String}
    {groups : List (List Clause)}
    {search : Search β}
    (hCommand :
      Command (registry search.stores) search.now args
        groups) :
    ∃ deeds,
      List.Forall₂ Deed.Realizes deeds
        (occurrences groups) ∧
      (run args search =
        match performAll none deeds search with
        | (some fault, after) => (some fault, after)
        | (none, after) => after.finish) ∧
      (∀ deed ∈ deeds, ∀ before : Search β,
        Asks (deed.questions before.stores.length) before
          (deed.perform before).2
          ((deed.perform before).1 = .ok false)) ∧
      Asks
        (deeds.flatMap (·.questions search.stores.length))
        search (run args search).2
        (∃ after, Completes deeds search after) := by
  rcases plan_of_command hCommand with
    ⟨deeds, hPlan, hDeeds⟩
  have hRun := run_eq_perform args search
  have hAsks := asks_run args search
  rw [hPlan] at hRun hAsks
  exact ⟨deeds, hDeeds, hRun,
    fun deed _ => asks_perform deed, hAsks⟩

/- What is not large enough is counted behind a disjunction. -/
theorem run_of_command_disjunction :
    let args := ["-size", "+1k", "-print", "-o", "-count"]
    let large : Clause :=
      ⟨some (.compare .size .greater (.unsigned 1024)), [],
        .print⟩
    let others : Clause := ⟨none, [], .count⟩
    (∃ deeds,
      List.Forall₂ Deed.Realizes deeds
        [⟨[], [large], .print⟩,
          ⟨[[large]], [others], .count⟩] ∧
      (run args oneFile).2.asked <+:
        deeds.flatMap (·.questions 1)) ∧
    (run args oneFile).2.out.text =
      "/a.tmp\n0 matching entries\n" := by
  intro args large others
  let known := registry oneFile.stores
  have hSize :
      Sentence known 0 ["-size", "+1k"] large.filter [] :=
    sentence_of_compile rfl
  have hNone : Sentence known 0 [] none [] :=
    sentence_of_compile rfl
  have hLarge :
      Acts known 0 ["-size", "+1k", "-print"] large :=
    .intro hSize (.intro rfl rfl rfl) rfl
  have hOthers : Acts known 0 ["-count"] others :=
    .intro hNone (.intro rfl rfl rfl) rfl
  have hGroups :
      Groups known 0 args [[large], [others]] :=
    .more (.one hLarge) (.disjunction (.inl rfl))
      (.one (.one hOthers))
  have hCommand :
      Command (registry oneFile.stores) oneFile.now args
        [[large], [others]] :=
    .acting hGroups
  rcases run_of_command hCommand with
    ⟨deeds, hDeeds, _, _, _, hFirst, hAsked, _⟩
  refine ⟨⟨deeds, hDeeds, ?_⟩, by decide +kernel⟩
  rw [hAsked]
  exact hFirst

end Search

end TreeKeeper
