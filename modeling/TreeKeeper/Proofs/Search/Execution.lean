import TreeKeeper.Proofs.Search.Steps

/-
  Executing actions as chains of steps.  The kinds of steps
  that an action takes are known beforehand, whatever the
  stores hold, and no execution fails for the way in which
  the action was asked for.

  Key definitions include:
    * `SearchAction.Takes`
    * `SearchFault.IsMisuse`
    * `SearchFault.IsTrouble`

  Main declarations:
    * `Search.steps_execute`
    * `Search.isTrouble_of_execute`
-/

------------------------------------------------------------
-- Reading And Writing
------------------------------------------------------------

namespace TreeKeeper

namespace Search

variable {β κ : Type}
variable [Store β κ]
variable {allowed : StepKind → Prop}

/-
  Whether texts may be written now: to the file, if one is
  open, and otherwise to the output.
-/
def MayPut
    (allowed : StepKind → Prop)
    (search : Search β) : Prop :=
  allowed .filling ∧
    (search.file = none → allowed .printing)

theorem steps_query
    (hReading : allowed .reading)
    (search : Search β)
    (place : Nat)
    (store : β)
    (filter : Option Filter)
    (options : QueryOptions) :
    Steps allowed search
      (search.query place store filter options).2 :=
  .single hReading (.query search place store filter options)

theorem steps_put
    {search : Search β}
    (hMay : MayPut allowed search)
    (text : String) :
    Steps allowed search (search.put text).2 ∧
      MayPut allowed (search.put text).2 := by
  cases hFile : search.file with
  | none =>
      rcases put_of_output hFile text with ⟨_, hPut⟩
      refine ⟨.single (hMay.2 hFile) (.print hFile text), ?_⟩
      rw [hPut]
      exact hMay
  | some file =>
      rcases put_of_file hFile text with ⟨_, _, hPut⟩
      refine ⟨.single hMay.1 (.fill hFile text), ?_⟩
      rw [hPut]
      exact ⟨hMay.1, nofun⟩

theorem steps_putAll
    {search : Search β}
    (hMay : MayPut allowed search)
    (texts : List String) :
    Steps allowed search (search.putAll texts).2 ∧
      MayPut allowed (search.putAll texts).2 := by
  induction texts generalizing search with
  | nil => exact ⟨.refl search, hMay⟩
  | cons text rest ih =>
      rcases steps_put hMay text with ⟨hPut, hAfter⟩
      unfold putAll
      generalize search.put text = written at hPut hAfter ⊢
      rcases written with ⟨isComplete, after⟩
      cases isComplete with
      | false => exact ⟨hPut, hAfter⟩
      | true =>
          rcases ih hAfter with ⟨hRest, hLast⟩
          exact ⟨hPut.trans hRest, hLast⟩

theorem steps_putEntry
    {search : Search β}
    (hMay : MayPut allowed search)
    (rendering : Rendering)
    (entry : Entry) :
    Steps allowed search
        (search.putEntry rendering entry).2 ∧
      MayPut allowed
        (search.putEntry rendering entry).2 := by
  unfold putEntry
  split
  · exact steps_putAll hMay _
  · exact ⟨.refl search, hMay⟩

theorem steps_writeFrom
    (rendering : Rendering)
    (hReading : allowed .reading)
    (steps : Nat)
    {cursor : κ}
    {search : Search β}
    (hMay : MayPut allowed search) :
    Steps allowed search
        (writeFrom rendering steps cursor search).2 ∧
      MayPut allowed
        (writeFrom rendering steps cursor search).2 := by
  induction steps generalizing cursor search with
  | zero => exact ⟨.refl search, hMay⟩
  | succ steps ih =>
      have hFetch :
          Steps allowed search
            (search.withWorld
              (Store.fetch β cursor search.world).2.2) :=
        .single hReading (.fetch search cursor)
      unfold writeFrom
      generalize Store.fetch β cursor search.world = fetched
        at hFetch ⊢
      rcases fetched with ⟨fetched, next, world⟩
      have hBefore :
          MayPut allowed (search.withWorld world) := hMay
      cases fetched with
      | finished => exact ⟨hFetch, hBefore⟩
      | failed fault => exact ⟨hFetch, hBefore⟩
      | again =>
          rcases ih hBefore with ⟨hRest, hLast⟩
          exact ⟨hFetch.trans hRest, hLast⟩
      | entry entry =>
          rcases steps_putEntry hBefore rendering entry with
            ⟨hPut, hAfter⟩
          dsimp only
          generalize (search.withWorld world).putEntry
            rendering entry = written at hPut hAfter ⊢
          rcases written with ⟨fault, after⟩
          cases fault with
          | some fault => exact ⟨hFetch.trans hPut, hAfter⟩
          | none =>
              rcases ih hAfter with ⟨hRest, hLast⟩
              exact ⟨(hFetch.trans hPut).trans hRest, hLast⟩

theorem steps_writeMatches
    (filter : Option Filter)
    (options : QueryOptions)
    (rendering : Rendering)
    (hReading : allowed .reading)
    (stores : List (β × Nat))
    {search : Search β}
    (hMay : MayPut allowed search) :
    Steps allowed search
      (writeMatches filter options rendering stores
        search).2 := by
  induction stores generalizing search with
  | nil => exact .refl search
  | cons first rest ih =>
      rcases first with ⟨store, place⟩
      have hQuery := steps_query hReading search place store
        filter options
      have hBefore :
          MayPut allowed
            (search.query place store filter options).2 :=
        hMay
      unfold writeMatches
      generalize search.query place store filter options =
        asked at hQuery hBefore ⊢
      rcases asked with ⟨result, asked⟩
      cases result with
      | error fault => exact hQuery
      | ok cursor =>
          rcases steps_writeFrom rendering hReading
              (Store.bound β cursor asked.world + 1)
              hBefore with
            ⟨hWrite, hAfter⟩
          dsimp only
          generalize writeFrom rendering
            (Store.bound β cursor asked.world + 1) cursor
              asked = written at hWrite hAfter ⊢
          rcases written with ⟨fault, after⟩
          cases fault with
          | some fault => exact hQuery.trans hWrite
          | none =>
              exact (hQuery.trans hWrite).trans (ih hAfter)

theorem steps_collectFrom
    (hReading : allowed .reading)
    (steps : Nat)
    (cursor : κ)
    (search : Search β) :
    Steps allowed search
      (collectFrom steps cursor search).2 := by
  induction steps generalizing cursor search with
  | zero => exact .refl search
  | succ steps ih =>
      have hFetch :
          Steps allowed search
            (search.withWorld
              (Store.fetch β cursor search.world).2.2) :=
        .single hReading (.fetch search cursor)
      unfold collectFrom
      generalize Store.fetch β cursor search.world = fetched
        at hFetch ⊢
      rcases fetched with ⟨fetched, next, world⟩
      cases fetched with
      | finished => exact hFetch
      | failed fault => exact hFetch
      | again => exact hFetch.trans (ih _ _)
      | entry entry => exact hFetch.trans (ih _ _)

theorem steps_collect
    (hReading : allowed .reading)
    (search : Search β)
    (place : Nat)
    (store : β)
    (filter : Option Filter)
    (options : QueryOptions) :
    Steps allowed search
      (search.collect place store filter options).2 := by
  have hQuery := steps_query hReading search place store
    filter options
  unfold collect
  generalize search.query place store filter options = asked
    at hQuery ⊢
  rcases asked with ⟨result, asked⟩
  cases result with
  | error fault => exact hQuery
  | ok cursor =>
      exact hQuery.trans (steps_collectFrom hReading _ _ _)

theorem steps_countMatches
    (filter : Option Filter)
    (options : QueryOptions)
    (hReading : allowed .reading)
    (stores : List (β × Nat))
    (search : Search β) :
    Steps allowed search
      (countMatches filter options stores search).2 := by
  induction stores generalizing search with
  | nil => exact .refl search
  | cons first rest ih =>
      rcases first with ⟨store, place⟩
      have hCollect := steps_collect hReading search place
        store filter options
      unfold countMatches
      generalize search.collect place store filter options =
        collected at hCollect ⊢
      rcases collected with ⟨result, after⟩
      cases result with
      | error fault => exact hCollect
      | ok entries => exact hCollect.trans (ih after)

theorem steps_hasMatch
    (filter : Option Filter)
    (options : QueryOptions)
    (hReading : allowed .reading)
    (stores : List (β × Nat))
    (search : Search β) :
    Steps allowed search
      (hasMatch filter options stores search).2 := by
  induction stores generalizing search with
  | nil => exact .refl search
  | cons first rest ih =>
      rcases first with ⟨store, place⟩
      have hCollect := steps_collect hReading search place
        store filter options
      unfold hasMatch
      generalize search.collect place store filter options =
        collected at hCollect ⊢
      rcases collected with ⟨result, after⟩
      cases result with
      | error fault => exact hCollect
      | ok entries =>
          cases entries with
          | nil => exact hCollect.trans (ih after)
          | cons => exact hCollect

------------------------------------------------------------
-- Deleting
------------------------------------------------------------

theorem steps_removeEntries
    (place : Nat)
    (hRemoving : allowed .removing)
    (store : β)
    (entries : List Entry)
    (search : Search β) :
    Steps allowed search
      (removeEntries place store entries search) := by
  induction entries generalizing store search with
  | nil => exact .refl search
  | cons entry rest ih =>
      have hRemove :
          Steps allowed search
            (search.removeEntry place store entry).2 :=
        .single hRemoving (.remove search place store entry)
      unfold removeEntries
      split
      · exact ih store search
      · exact hRemove.trans (ih _ _)

theorem steps_deleteMatches
    (filter : Option Filter)
    (options : QueryOptions)
    (hReading : allowed .reading)
    (hRemoving : allowed .removing)
    (stores : List (β × Nat))
    (search : Search β) :
    Steps allowed search
      (deleteMatches filter options stores search).2 := by
  induction stores generalizing search with
  | nil => exact .refl search
  | cons first rest ih =>
      rcases first with ⟨store, place⟩
      have hCollect := steps_collect hReading search place
        store filter options
      unfold deleteMatches
      generalize search.collect place store filter options =
        collected at hCollect ⊢
      rcases collected with ⟨result, after⟩
      cases result with
      | error fault => exact hCollect
      | ok entries =>
          have hRemove :=
            steps_removeEntries place hRemoving store
              (deepestFirst entries) after
          exact (hCollect.trans hRemove).trans (ih _)

end Search

------------------------------------------------------------
-- Actions
------------------------------------------------------------

/- The kinds of steps that an action takes. -/
def SearchAction.Takes :
    SearchAction → Search.StepKind → Prop
| _, .reading => True
| .write none _, .printing => True
| .write _ _, .filling => True
| .write (some _) _, .opening => True
| .count, .printing => True
| .count, .filling => True
| .delete, .removing => True
| _, _ => False

namespace Search

variable {β κ : Type}
variable [Store β κ]

/- A file that was opened is the one that is written to. -/
theorem file_of_openFile
    {search after : Search β}
    {path : String}
    (hOpen : search.openFile path = (none, after)) :
    after.file ≠ none := by
  unfold openFile at hOpen
  split at hOpen
  · exact nomatch hOpen
  · cases hOpen
    nofun

theorem steps_executeWrite
    (filter : Option Filter)
    (options : QueryOptions)
    (rendering : Rendering)
    (file : Option String)
    (search : Search β) :
    Steps (SearchAction.write file rendering).Takes search
      (executeWrite filter options rendering file
        search).2 := by
  unfold executeWrite
  cases file with
  | none =>
      exact steps_writeMatches filter options rendering
        trivial _ ⟨trivial, fun _ => trivial⟩
  | some path =>
      have hOpened :
          Steps (SearchAction.write (some path)
            rendering).Takes search
              (search.openFile path).2 :=
        .single (by trivial) (.open search path)
      dsimp only
      cases hOpen : search.openFile path with
      | mk fault opened =>
          rw [hOpen] at hOpened
          cases fault with
          | some fault => exact hOpened
          | none =>
              have hMay :
                  MayPut (SearchAction.write (some path)
                    rendering).Takes opened :=
                ⟨trivial, fun hFile =>
                  absurd hFile (file_of_openFile hOpen)⟩
              have hWrite := steps_writeMatches filter options
                rendering (by trivial) opened.stores.zipIdx
                hMay
              exact (hOpened.trans hWrite).tail (by trivial)
                (.close _)

theorem goOn_snd
    (result : Option SearchFault × Search β) :
    (goOn result).2 = result.2 := by
  unfold goOn
  split <;> rfl

theorem reportCount_snd
    (count : Nat)
    (search : Search β) :
    (reportCount count search).2 =
      (search.putAll [countLine count]).2 := by
  unfold reportCount
  split <;> simp [*]

/- Every action takes only the steps of its kinds. -/
theorem steps_execute
    (filter : Option Filter)
    (sorts : List SortKey)
    (action : SearchAction)
    (search : Search β) :
    Steps action.Takes search
      (execute filter sorts action search).2 := by
  cases action with
  | write file rendering =>
      have hWrite := steps_executeWrite filter
        { one := false, sorts := sorts } rendering file search
      exact (goOn_snd _).symm ▸ hWrite
  | count =>
      have hCount :
          Steps SearchAction.count.Takes search
            (countMatches filter
              { one := false, sorts := sorts }
              search.stores.zipIdx search).2 :=
        steps_countMatches filter _ trivial _ search
      unfold execute
      dsimp only [SearchAction.isQuit]
      generalize countMatches filter
        { one := false, sorts := sorts } search.stores.zipIdx
          search = counted at hCount ⊢
      rcases counted with ⟨result, after⟩
      cases result with
      | error fault => exact hCount
      | ok count =>
          have hReport :
              Steps SearchAction.count.Takes after
                (after.putAll [countLine count]).2 :=
            (steps_putAll ⟨trivial, fun _ => trivial⟩ _).1
          dsimp only
          rw [reportCount_snd]
          exact hCount.trans hReport
  | delete =>
      have hDelete :
          Steps SearchAction.delete.Takes search
            (deleteMatches filter
              { one := false, sorts := sorts }
              search.stores.zipIdx search).2 :=
        steps_deleteMatches filter _ trivial trivial _ search
      exact (goOn_snd _).symm ▸ hDelete
  | quit =>
      exact steps_hasMatch filter _ trivial _ search

end Search

------------------------------------------------------------
-- Faults
------------------------------------------------------------

/-
  Whether a search fails for the way in which it was asked
  for: for its expression, or for an action that there is not
  yet.
-/
inductive SearchFault.IsMisuse : SearchFault → Prop
| expression
    (fault : ExpressionFault) :
    IsMisuse (.expression fault)
| reserved
    (name : String) :
    IsMisuse (.reserved name)

/-
  Whether a search fails while it acts, because of a store,
  of the output, or of a number that overflows.
-/
inductive SearchFault.IsTrouble : SearchFault → Prop
| store
    (fault : StoreFault) :
    IsTrouble (.store fault)
| output
    (fault : OutputFault) :
    IsTrouble (.output fault)
| overflow : IsTrouble .overflow

theorem SearchFault.IsTrouble.not_isMisuse
    {fault : SearchFault}
    (hTrouble : fault.IsTrouble) :
    ¬ fault.IsMisuse := by
  rintro ⟨⟩
  · exact nomatch hTrouble
  · exact nomatch hTrouble

namespace Search

variable {β κ : Type}
variable [Store β κ]
variable {search after : Search β}
variable {fault : SearchFault}

theorem isTrouble_of_putAll
    {texts : List String}
    (hPut : search.putAll texts = (some fault, after)) :
    fault.IsTrouble := by
  induction texts generalizing search with
  | nil => exact nomatch hPut
  | cons text rest ih =>
      unfold putAll at hPut
      split at hPut
      · exact ih hPut
      · cases hPut
        exact .output _

theorem isTrouble_of_putEntry
    {rendering : Rendering}
    {entry : Entry}
    (hPut :
      search.putEntry rendering entry =
        (some fault, after)) :
    fault.IsTrouble := by
  unfold putEntry at hPut
  split at hPut
  · exact isTrouble_of_putAll hPut
  · cases hPut
    exact .overflow

theorem isTrouble_of_openFile
    {path : String}
    (hOpen : search.openFile path = (some fault, after)) :
    fault.IsTrouble := by
  unfold openFile at hOpen
  split at hOpen
  · cases hOpen
    exact .output _
  · exact nomatch hOpen

theorem isTrouble_of_writeFrom
    {rendering : Rendering}
    {steps : Nat}
    {cursor : κ}
    (hWrite :
      writeFrom rendering steps cursor search =
        (some fault, after)) :
    fault.IsTrouble := by
  induction steps generalizing cursor search with
  | zero => exact nomatch hWrite
  | succ steps ih =>
      unfold writeFrom at hWrite
      split at hWrite
      · exact nomatch hWrite
      · cases hWrite
        exact .store _
      · exact ih hWrite
      · split at hWrite
        · rename_i hPut
          cases hWrite
          exact isTrouble_of_putEntry hPut
        · exact ih hWrite

theorem isTrouble_of_writeMatches
    {filter : Option Filter}
    {options : QueryOptions}
    {rendering : Rendering}
    {stores : List (β × Nat)}
    (hWrite :
      writeMatches filter options rendering stores search =
        (some fault, after)) :
    fault.IsTrouble := by
  induction stores generalizing search with
  | nil => exact nomatch hWrite
  | cons first rest ih =>
      unfold writeMatches at hWrite
      split at hWrite
      · cases hWrite
        exact .store _
      · split at hWrite
        · rename_i hFrom
          cases hWrite
          exact isTrouble_of_writeFrom hFrom
        · exact ih hWrite

theorem isTrouble_of_executeWrite
    {filter : Option Filter}
    {options : QueryOptions}
    {rendering : Rendering}
    {file : Option String}
    (hWrite :
      executeWrite filter options rendering file search =
        (some fault, after)) :
    fault.IsTrouble := by
  unfold executeWrite at hWrite
  split at hWrite
  · exact isTrouble_of_writeMatches hWrite
  · split at hWrite
    · rename_i hOpen
      cases hWrite
      exact isTrouble_of_openFile hOpen
    · rename_i opened _
      generalize hMatches :
        writeMatches filter options rendering
          opened.stores.zipIdx opened = written at hWrite
      rcases written with ⟨result, last⟩
      cases hWrite
      exact isTrouble_of_writeMatches hMatches

theorem isTrouble_of_countMatches
    {filter : Option Filter}
    {options : QueryOptions}
    {stores : List (β × Nat)}
    (hCount :
      countMatches filter options stores search =
        (.error fault, after)) :
    fault.IsTrouble := by
  induction stores generalizing search after with
  | nil => exact nomatch hCount
  | cons first rest ih =>
      unfold countMatches at hCount
      split at hCount
      · cases hCount
        exact .store _
      · rename_i entries collected _
        dsimp only at hCount
        generalize hRest :
          countMatches filter options rest collected =
            counted at hCount
        rcases counted with ⟨result, last⟩
        cases result with
        | ok count => exact nomatch hCount
        | error fault =>
            cases hCount
            exact ih hRest

theorem isTrouble_of_hasMatch
    {filter : Option Filter}
    {options : QueryOptions}
    {stores : List (β × Nat)}
    (hMatch :
      hasMatch filter options stores search =
        (.error fault, after)) :
    fault.IsTrouble := by
  induction stores generalizing search with
  | nil => exact nomatch hMatch
  | cons first rest ih =>
      unfold hasMatch at hMatch
      split at hMatch
      · cases hMatch
        exact .store _
      · exact ih hMatch
      · exact nomatch hMatch

theorem isTrouble_of_deleteMatches
    {filter : Option Filter}
    {options : QueryOptions}
    {stores : List (β × Nat)}
    (hDelete :
      deleteMatches filter options stores search =
        (some fault, after)) :
    fault.IsTrouble := by
  induction stores generalizing search with
  | nil => exact nomatch hDelete
  | cons first rest ih =>
      unfold deleteMatches at hDelete
      split at hDelete
      · cases hDelete
        exact .store _
      · exact ih hDelete

theorem eq_of_goOn
    {result : Option SearchFault × Search β}
    (hGoOn : goOn result = (.error fault, after)) :
    result = (some fault, after) := by
  unfold goOn at hGoOn
  split at hGoOn
  · cases hGoOn
    rfl
  · exact nomatch hGoOn

/- An action fails only because of a store or the output. -/
theorem isTrouble_of_execute
    {filter : Option Filter}
    {sorts : List SortKey}
    {action : SearchAction}
    (hExecute :
      execute filter sorts action search =
        (.error fault, after)) :
    fault.IsTrouble := by
  unfold execute at hExecute
  dsimp only at hExecute
  cases action with
  | write file rendering =>
      exact isTrouble_of_executeWrite
        (eq_of_goOn hExecute)
  | count =>
      dsimp only at hExecute
      split at hExecute
      · rename_i hCount
        cases hExecute
        exact isTrouble_of_countMatches hCount
      · unfold reportCount at hExecute
        split at hExecute
        · rename_i hPut
          cases hExecute
          exact isTrouble_of_putAll hPut
        · exact nomatch hExecute
  | delete =>
      exact isTrouble_of_deleteMatches
        (eq_of_goOn hExecute)
  | quit => exact isTrouble_of_hasMatch hExecute

/- No action fails for the way in which it was asked for. -/
theorem not_isMisuse_of_execute
    {filter : Option Filter}
    {sorts : List SortKey}
    {action : SearchAction}
    (hExecute :
      execute filter sorts action search =
        (.error fault, after)) :
    ¬ fault.IsMisuse :=
  (isTrouble_of_execute hExecute).not_isMisuse

/- The end of a search, by whether its output is flushed. -/
theorem finish_eq
    (search : Search β) :
    search.finish =
      if search.out.flush.1 then
        { search with out := search.out.flush.2 }.finishStores
      else
        (some (.output .full),
          { search with out := search.out.flush.2 }) := by
  unfold finish flushOutput
  generalize search.out.flush = flushed
  rcases flushed with ⟨isComplete, out⟩
  cases isComplete <;> rfl

/- Nor does what ends a search. -/
theorem not_isMisuse_of_finish
    (hFinish : search.finish = (some fault, after)) :
    ¬ fault.IsMisuse := by
  rw [finish_eq] at hFinish
  split at hFinish
  · unfold finishStores at hFinish
    split at hFinish
    · cases hFinish
      nofun
    · split at hFinish
      · cases hFinish
        nofun
      · exact nomatch hFinish
  · cases hFinish
    nofun

end Search

end TreeKeeper
