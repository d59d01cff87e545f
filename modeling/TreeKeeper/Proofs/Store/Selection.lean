import TreeKeeper.Proofs.Entry.Ordering
import TreeKeeper.Store.Results

/-
  The answers of a query.  Whether entries are drawn one by
  one or sorted beforehand, what is handed out is the same as
  if the source was read up to its first fault, filtered,
  sorted and cut to size in one go, with the fault behind it
  unless the greatest number of entries was reached.

  Key definitions include:
    * `Source.Gives`
    * `Readings.legible`
    * `Readings.fault?`
    * `QueryOptions.cut`
    * `QueryOptions.IsUsedUp`
    * `Results.answers`
    * `Results.Promises`

  Main declarations:
    * `Results.fetch_of_promises`
    * `Results.answers_of_promises`
    * `Results.promises_start`
    * `Results.answers_of_source`
-/

------------------------------------------------------------
-- What A Source Gives
------------------------------------------------------------

namespace TreeKeeper

variable {σ : Type}
variable [Source σ]

/-
  Whether a source gives some readings, one in each step, and
  ends behind them, as long as files have some property.
-/
def Source.Gives
    (files : FileTree → Location → Prop) :
    Readings → σ → Prop
| [], source =>
    ∀ world : World, files world.tree world.directory →
      (Source.next source world).1 = none
| reading :: rest, source =>
    ∀ world : World, files world.tree world.directory →
      ∃ later after,
        Source.next source world =
          (some reading, later, after) ∧
        files after.tree after.directory ∧
        rest.length < Source.bound source world ∧
        Gives files rest later

/- A list gives what it holds, whatever the files are. -/
theorem Readings.gives
    (files : FileTree → Location → Prop)
    (readings : Readings) :
    Source.Gives files readings readings := by
  induction readings with
  | nil => exact fun _ _ => rfl
  | cons reading rest ih =>
      intro world hWorld
      exact ⟨rest, world, rfl, hWorld, Nat.lt_succ_self _, ih⟩

namespace Readings

/-
  The entries that are read: those in front of the first
  fault, or all of them if faults are skipped.
-/
def legible
    (skipErrors : Bool)
    (readings : Readings) : List Entry :=
  if skipErrors then readings.filterMap Except.toOption
  else
    (readings.takeWhile Except.isOk).filterMap
      Except.toOption

/- The fault of a reading. -/
def faultOf : Except StoreFault Entry → Option StoreFault
| .ok _ => none
| .error fault => some fault

/- The fault that reading stops at. -/
def fault?
    (skipErrors : Bool)
    (readings : Readings) : Option StoreFault :=
  if skipErrors then none else readings.findSome? faultOf

variable (skipErrors : Bool)
variable (entry : Entry) (fault : StoreFault)
variable (rest : Readings)

@[simp]
theorem legible_nil : legible skipErrors [] = [] := by
  cases skipErrors <;> rfl

@[simp]
theorem fault?_nil : fault? skipErrors [] = none := by
  cases skipErrors <;> rfl

@[simp]
theorem legible_cons_ok :
    legible skipErrors (.ok entry :: rest) =
      entry :: legible skipErrors rest := by
  cases skipErrors <;> rfl

@[simp]
theorem fault?_cons_ok :
    fault? skipErrors (.ok entry :: rest) =
      fault? skipErrors rest := by
  cases skipErrors <;> rfl

/- A fault is skipped, or nothing is read behind it. -/
@[simp]
theorem legible_cons_error :
    legible skipErrors (.error fault :: rest) =
      if skipErrors then legible skipErrors rest else [] := by
  cases skipErrors <;> rfl

@[simp]
theorem fault?_cons_error :
    fault? skipErrors (.error fault :: rest) =
      if skipErrors then fault? skipErrors rest
      else some fault := by
  cases skipErrors <;> rfl

/- Entries with a fault behind them, as a list to read. -/
def ofEntries
    (entries : List Entry)
    (fault : Option StoreFault) : Readings :=
  entries.map .ok ++ fault.toList.map .error

variable (entries : List Entry) (last : Option StoreFault)

@[simp]
theorem legible_ofEntries :
    legible skipErrors (ofEntries entries last) = entries := by
  induction entries with
  | nil =>
      cases last with
      | none => exact legible_nil skipErrors
      | some fault => cases skipErrors <;> rfl
  | cons entry entries ih =>
      have hCons :
          ofEntries (entry :: entries) last =
            .ok entry :: ofEntries entries last := rfl
      rw [hCons, legible_cons_ok, ih]

@[simp]
theorem fault?_ofEntries :
    fault? skipErrors (ofEntries entries last) =
      if skipErrors then none else last := by
  induction entries with
  | nil =>
      cases last with
      | none => cases skipErrors <;> rfl
      | some fault => cases skipErrors <;> rfl
  | cons entry entries ih =>
      have hCons :
          ofEntries (entry :: entries) last =
            .ok entry :: ofEntries entries last := rfl
      rw [hCons, fault?_cons_ok, ih]

/- Only what is not skipped can stop the reading. -/
theorem fault?_eq_ite
    (readings : Readings) :
    fault? skipErrors readings =
      if skipErrors then none
      else fault? skipErrors readings := by
  cases skipErrors <;> rfl

end Readings

------------------------------------------------------------
-- How Much Is Asked For
------------------------------------------------------------

namespace QueryOptions

/- The entries in front, up to a number if there is one. -/
def upTo
    (limit : Option Nat)
    (entries : List Entry) : List Entry :=
  match limit with
  | some limit => entries.take limit
  | none => entries

/- The entries in front, as many as are asked for. -/
def cut
    (options : QueryOptions)
    (entries : List Entry) : List Entry :=
  if options.one then (upTo options.limit entries).take 1
  else upTo options.limit entries

/- Whether a number of entries is all that is asked for. -/
def IsUsedUp
    (options : QueryOptions)
    (count : Nat) : Prop :=
  options.limit = some count ∨
    options.one = true ∧ count = 1

instance
    (options : QueryOptions)
    (count : Nat) :
    Decidable (options.IsUsedUp count) := by
  unfold IsUsedUp
  infer_instance

theorem upTo_limitOf
    (options : QueryOptions)
    (entries : List Entry) :
    upTo (Results.limitOf options) entries =
      options.cut entries := by
  unfold Results.limitOf cut
  cases options.one with
  | false => rfl
  | true =>
      cases options.limit with
      | none => rfl
      | some limit =>
          unfold upTo
          dsimp only [Option.getD_some]
          rw [if_pos rfl, if_pos rfl, List.take_take,
            Nat.min_comm]

theorem isUsedUp_iff
    (options : QueryOptions)
    (entries : List Entry) :
    options.IsUsedUp (options.cut entries).length ↔
      Results.limitOf options =
        some (options.cut entries).length := by
  unfold IsUsedUp Results.limitOf cut upTo
  cases options.one with
  | false => simp
  | true =>
      cases options.limit with
      | none => simp [eq_comm]
      | some limit =>
          have hMin : limit.min 1 = min limit 1 := rfl
          simp only [if_true, List.take_take,
            List.length_take, Option.some.injEq,
            Option.getD_some, true_and, hMin]
          omega

end QueryOptions

------------------------------------------------------------
-- Feeds
------------------------------------------------------------

/- Whether a feed gives some readings and then ends. -/
def Feed.Gives
    (files : FileTree → Location → Prop)
    (readings : Readings) : Feed σ → Prop
| .drawn source => Source.Gives files readings source
| .sorted rest => rest = readings

variable {files : FileTree → Location → Prop}

namespace Feed

theorem next_of_gives_nil
    {feed : Feed σ}
    {world : World}
    (hGives : feed.Gives files [])
    (hWorld : files world.tree world.directory) :
    (feed.next world).1 = none := by
  cases feed with
  | drawn source => exact hGives world hWorld
  | sorted rest =>
      cases hGives
      rfl

theorem next_of_gives_cons
    {feed : Feed σ}
    {reading : Except StoreFault Entry}
    {rest : Readings}
    {world : World}
    (hGives : feed.Gives files (reading :: rest))
    (hWorld : files world.tree world.directory) :
    ∃ later after,
      feed.next world = (some reading, later, after) ∧
      files after.tree after.directory ∧
      later.Gives files rest := by
  cases feed with
  | drawn source =>
      rcases hGives world hWorld with
        ⟨later, after, hNext, hAfter, _, hRest⟩
      refine ⟨.drawn later, after, ?_, hAfter, hRest⟩
      unfold next
      dsimp only
      rw [hNext]
  | sorted readings =>
      cases hGives
      exact ⟨.sorted rest, world, rfl, hWorld, rfl⟩

theorem length_le_bound
    {feed : Feed σ}
    {readings : Readings}
    {world : World}
    (hGives : feed.Gives files readings)
    (hWorld : files world.tree world.directory) :
    readings.length ≤ feed.bound world := by
  cases feed with
  | drawn source =>
      cases readings with
      | nil => exact Nat.zero_le _
      | cons reading rest =>
          rcases hGives world hWorld with
            ⟨_, _, _, _, hBound, _⟩
          exact hBound
  | sorted rest =>
      cases hGives
      exact Nat.le_refl _

end Feed

------------------------------------------------------------
-- Promises
------------------------------------------------------------

/- The end of some answers, or the fault in its place. -/
def Fetch.ofEnd : Option StoreFault → Fetch
| none => .finished
| some fault => .failed fault

namespace Results

/-
  Whether results have some entries and then maybe a fault to
  hand out, if they are asked for all of them.
-/
def Promises
    (files : FileTree → Location → Prop)
    (entries : List Entry)
    (fault : Option StoreFault)
    (results : Results σ) : Prop :=
  results.isDone = false ∧
  ∃ readings : Readings,
    results.feed.Gives files readings ∧
    ((readings.legible results.skipErrors).filter
      (Filter.admits results.filter)).drop
        results.skip = entries ∧
    readings.fault? results.skipErrors = fault

/-
  How results answer that promise some entries and a fault:
  with the first of the entries, so that the others are left,
  or at last with the fault or the end.
-/
inductive Delivers
    (files : FileTree → Location → Prop)
    (results : Results σ) :
    List Entry → Option StoreFault → Fetch → Results σ → Prop
| entry
    {entry : Entry}
    {more : List Entry}
    {fault : Option StoreFault}
    {later : Results σ}
    (hMore : later.Promises files more fault)
    (hRemaining :
      later.remaining = results.remaining.map (· - 1))
    (hProjection : later.projection = results.projection) :
    Delivers files results (entry :: more) fault
      (.entry (results.projection.apply entry)) later
| ending
    {fault : Option StoreFault}
    {later : Results σ}
    (hDone : later.isDone = true) :
    Delivers files results [] fault (.ofEnd fault) later

/- A step that only moves the feed and skips an entry. -/
theorem Delivers.of_skipped
    {before results later : Results σ}
    {entries : List Entry}
    {fault : Option StoreFault}
    {fetched : Fetch}
    (hDelivers :
      Delivers files before entries fault fetched later)
    (hRemaining : before.remaining = results.remaining)
    (hProjection : before.projection = results.projection) :
    Delivers files results entries fault fetched later := by
  cases hDelivers with
  | entry hMore hLess hSame =>
      rw [hProjection]
      exact .entry hMore (hRemaining ▸ hLess)
        (hSame.trans hProjection)
  | ending hDone => exact .ending hDone

/-
  The induction is on what the feed gives: each reading is
  left out, or skipped, or ends the step.
-/
theorem advance_delivers
    {results : Results σ}
    {readings : Readings}
    {steps : Nat}
    {world : World}
    (hGoing : results.isDone = false)
    (hGives : results.feed.Gives files readings)
    (hWorld : files world.tree world.directory)
    (hSteps : readings.length < steps) :
    Delivers files results
      (((readings.legible results.skipErrors).filter
        (Filter.admits results.filter)).drop results.skip)
      (readings.fault? results.skipErrors)
      (advance steps results world).1
      (advance steps results world).2.1 := by
  induction readings generalizing results steps world with
  | nil =>
      cases steps with
      | zero => exact nomatch hSteps
      | succ steps =>
          have hNext := Feed.next_of_gives_nil hGives hWorld
          unfold advance
          generalize results.feed.next world = step at hNext ⊢
          rcases step with ⟨reading, feed, after⟩
          cases hNext
          simp only [Readings.legible_nil,
            Readings.fault?_nil, List.filter_nil,
            List.drop_nil]
          exact .ending rfl
  | cons reading rest ih =>
      cases steps with
      | zero => exact nomatch hSteps
      | succ steps =>
          have hRest : rest.length < steps :=
            Nat.lt_of_succ_lt_succ hSteps
          rcases Feed.next_of_gives_cons hGives hWorld with
            ⟨feed, after, hNext, hAfter, hFeed⟩
          unfold advance
          rw [hNext]
          cases reading with
          | error fault =>
              rw [Readings.legible_cons_error,
                Readings.fault?_cons_error]
              dsimp only
              split
              · have hLater :=
                  @ih { results with feed := feed } steps
                    (warnSkipped fault after) hGoing hFeed
                    hAfter hRest
                exact hLater.of_skipped rfl rfl
              · rw [List.filter_nil, List.drop_nil]
                exact .ending rfl
          | ok entry =>
              rw [Readings.legible_cons_ok,
                Readings.fault?_cons_ok, List.filter_cons]
              dsimp only
              cases Filter.admits results.filter entry with
              | false =>
                  have hLater :=
                    @ih { results with feed := feed } steps
                      after hGoing hFeed hAfter hRest
                  exact hLater.of_skipped rfl rfl
              | true =>
                  rw [if_pos rfl, if_neg (by decide)]
                  cases hSkip : results.skip with
                  | zero =>
                      rw [if_neg (Nat.lt_irrefl 0)]
                      exact .entry
                        ⟨hGoing, rest, hFeed, rfl, rfl⟩ rfl rfl
                  | succ skip =>
                      rw [if_pos skip.succ_pos]
                      have hLater :=
                        @ih { results with
                            feed := feed
                            skip := skip } steps
                          after hGoing hFeed hAfter hRest
                      exact hLater.of_skipped rfl rfl

------------------------------------------------------------
-- Answers
------------------------------------------------------------

/- What results answer in some worlds, one after the other. -/
def answers : List World → Results σ → List Fetch
| [], _ => []
| world :: worlds, results =>
    (results.fetch world).1 ::
      answers worlds (results.fetch world).2.1

/- Nothing is left behind the end or the last entry. -/
theorem fetch_of_ended
    {results : Results σ}
    (hEnded :
      results.isDone = true ∨ results.remaining = some 0)
    (world : World) :
    results.fetch world = (.finished, results, world) := by
  unfold fetch
  rw [if_pos (by simpa using hEnded)]

/- Results deliver what they promise, if more may be asked. -/
theorem fetch_of_promises
    {results : Results σ}
    {entries : List Entry}
    {fault : Option StoreFault}
    {world : World}
    (hPromises : results.Promises files entries fault)
    (hRemaining : results.remaining ≠ some 0)
    (hWorld : files world.tree world.directory) :
    Delivers files results entries fault
      (results.fetch world).1 (results.fetch world).2.1 := by
  rcases hPromises with ⟨hGoing, readings, hGives, rfl, rfl⟩
  have hBound := Feed.length_le_bound hGives hWorld
  unfold fetch
  rw [if_neg (by simp [hGoing, hRemaining])]
  exact advance_delivers hGoing hGives hWorld
    (Nat.lt_succ_of_le hBound)

/- Results expect to be asked for all that they promise. -/
theorem Promises.length_le_bound
    {results : Results σ}
    {entries : List Entry}
    {fault : Option StoreFault}
    {world : World}
    (hPromises : results.Promises files entries fault)
    (hWorld : files world.tree world.directory) :
    entries.length ≤ results.bound world := by
  rcases hPromises with ⟨_, readings, hGives, rfl, _⟩
  have hLegible :
      (readings.legible results.skipErrors).length ≤
        readings.length := by
    unfold Readings.legible
    split
    · exact List.length_filterMap_le _ _
    · exact Nat.le_trans (List.length_filterMap_le _ _)
        (List.takeWhile_sublist _).length_le
  have hFilter :=
    List.length_filter_le (Filter.admits results.filter)
      (readings.legible results.skipErrors)
  have hBound := Feed.length_le_bound hGives hWorld
  unfold bound
  rw [List.length_drop]
  omega

/- The first answers of a list that the end stands behind. -/
def firstOf (count : Nat) (all : List Fetch) : List Fetch :=
  (List.range count).map fun n => all.getD n .finished

theorem firstOf_succ_nil
    (count : Nat) :
    firstOf (count + 1) [] = .finished :: firstOf count [] := by
  unfold firstOf
  rw [List.range_succ_eq_map, List.map_cons, List.map_map]
  rfl

theorem firstOf_succ_cons
    (count : Nat)
    (fetched : Fetch)
    (rest : List Fetch) :
    firstOf (count + 1) (fetched :: rest) =
      fetched :: firstOf count rest := by
  unfold firstOf
  rw [List.range_succ_eq_map, List.map_cons, List.map_map]
  rfl

/- As many answers as there are give all of them. -/
theorem firstOf_length
    (all : List Fetch) :
    firstOf all.length all = all := by
  induction all with
  | nil => rfl
  | cons fetched rest ih =>
      rw [List.length_cons, firstOf_succ_cons, ih]

theorem mem_or_eq_of_mem_firstOf
    {count : Nat}
    {all : List Fetch}
    {fetched : Fetch}
    (hFetched : fetched ∈ firstOf count all) :
    fetched ∈ all ∨ fetched = .finished := by
  rcases List.mem_map.1 hFetched with ⟨n, _, rfl⟩
  rw [List.getD_eq_getElem?_getD]
  cases hFound : all[n]? with
  | none => exact .inr rfl
  | some found => exact .inl (List.mem_of_getElem? hFound)

/- Behind the end there is nothing more, ever. -/
theorem answers_of_done
    {results : Results σ}
    (hDone : results.isDone = true)
    (worlds : List World) :
    answers worlds results = firstOf worlds.length [] := by
  induction worlds with
  | nil => rfl
  | cons world worlds ih =>
      rw [answers, fetch_of_ended (.inl hDone), ih,
        List.length_cons, firstOf_succ_nil]

/-
  The answers of results that may hand out at most a number
  of some entries, and then a fault if there were less.
-/
def outcome
    (projection : Projection)
    (remaining : Option Nat)
    (entries : List Entry)
    (fault : Option StoreFault) : List Fetch :=
  let chosen := QueryOptions.upTo remaining entries
  let last :=
    if remaining = some chosen.length then none else fault
  chosen.map (fun entry => .entry (projection.apply entry)) ++
    last.toList.map .failed

theorem outcome_zero
    (projection : Projection)
    (entries : List Entry)
    (fault : Option StoreFault) :
    outcome projection (some 0) entries fault = [] :=
  rfl

theorem outcome_nil
    (projection : Projection)
    {remaining : Option Nat}
    (hRemaining : remaining ≠ some 0)
    (fault : Option StoreFault) :
    outcome projection remaining [] fault =
      fault.toList.map .failed := by
  have hNone : QueryOptions.upTo remaining [] = [] := by
    cases remaining with
    | none => rfl
    | some limit => exact List.take_nil
  unfold outcome
  dsimp only
  rw [hNone, List.length_nil, if_neg hRemaining]
  rfl

theorem outcome_cons
    (projection : Projection)
    {remaining : Option Nat}
    (hRemaining : remaining ≠ some 0)
    (entry : Entry)
    (more : List Entry)
    (fault : Option StoreFault) :
    outcome projection remaining (entry :: more) fault =
      .entry (projection.apply entry) ::
        outcome projection (remaining.map (· - 1)) more
          fault := by
  cases remaining with
  | none => rfl
  | some limit =>
      cases limit with
      | zero => exact absurd rfl hRemaining
      | succ limit =>
          simp [outcome, QueryOptions.upTo]

/- Only entries that are there are handed out. -/
theorem exists_of_entry_mem_outcome
    {projection : Projection}
    {remaining : Option Nat}
    {entries : List Entry}
    {fault : Option StoreFault}
    {found : Entry}
    (hFound :
      .entry found ∈
        outcome projection remaining entries fault) :
    ∃ entry ∈ entries, projection.apply entry = found := by
  rcases List.mem_append.1 hFound with hEntry | hFault
  · rcases List.mem_map.1 hEntry with
      ⟨entry, hChosen, hSame⟩
    refine ⟨entry, ?_, Fetch.entry.inj hSame⟩
    cases remaining with
    | none => exact hChosen
    | some limit => exact List.mem_of_mem_take hChosen
  · rcases List.mem_map.1 hFault with ⟨_, _, hSame⟩
    exact nomatch hSame

/-
  By induction on the worlds: as long as entries are left and
  may be handed out, each answer takes the first of them.
-/
theorem answers_of_promises
    {results : Results σ}
    {entries : List Entry}
    {fault : Option StoreFault}
    {worlds : List World}
    (hPromises : results.Promises files entries fault)
    (hWorlds :
      ∀ world ∈ worlds, files world.tree world.directory) :
    answers worlds results =
      firstOf worlds.length
        (outcome results.projection results.remaining entries
          fault) := by
  induction worlds generalizing results entries with
  | nil => rfl
  | cons world worlds ih =>
      rcases List.forall_mem_cons.1 hWorlds with
        ⟨hWorld, hLater⟩
      rw [answers, List.length_cons]
      by_cases hRemaining : results.remaining = some 0
      · rw [fetch_of_ended (.inr hRemaining),
          ih hPromises hLater, hRemaining, outcome_zero,
          firstOf_succ_nil]
      · have hDelivers :=
          fetch_of_promises hPromises hRemaining hWorld
        generalize (results.fetch world).1 = fetched
          at hDelivers ⊢
        generalize (results.fetch world).2.1 = later
          at hDelivers ⊢
        cases hDelivers with
        | entry hMore hLess hProjection =>
            rw [ih hMore hLater, hLess, hProjection,
              outcome_cons _ hRemaining, firstOf_succ_cons]
        | ending hDone =>
            rw [answers_of_done hDone,
              outcome_nil _ hRemaining]
            cases fault with
            | none => exact (firstOf_succ_nil _).symm
            | some fault =>
                exact (firstOf_succ_cons _ _ _).symm

------------------------------------------------------------
-- Starting Queries
------------------------------------------------------------

theorem collect_of_gives
    {source : σ}
    {readings : Readings}
    {steps : Nat}
    {world : World}
    (filter : Option Filter)
    (skipErrors : Bool)
    (hGives : Source.Gives files readings source)
    (hWorld : files world.tree world.directory)
    (hSteps : readings.length < steps) :
    (collect filter skipErrors steps source world).1 =
        (readings.legible skipErrors).filter
          (Filter.admits filter) ∧
      (collect filter skipErrors steps source world).2.1 =
        readings.fault? skipErrors := by
  induction readings generalizing source steps world with
  | nil =>
      cases steps with
      | zero => exact nomatch hSteps
      | succ steps =>
          have hNext := hGives world hWorld
          unfold collect
          generalize Source.next source world = step
            at hNext ⊢
          rcases step with ⟨reading, later, after⟩
          cases hNext
          simp
  | cons reading rest ih =>
      cases steps with
      | zero => exact nomatch hSteps
      | succ steps =>
          have hRest : rest.length < steps :=
            Nat.lt_of_succ_lt_succ hSteps
          rcases hGives world hWorld with
            ⟨later, after, hNext, hAfter, _, hLater⟩
          unfold collect
          rw [hNext]
          cases reading with
          | error fault =>
              rw [Readings.legible_cons_error,
                Readings.fault?_cons_error]
              dsimp only
              split
              · exact @ih later steps (warnSkipped fault after)
                  hLater hAfter hRest
              · exact ⟨rfl, rfl⟩
          | ok entry =>
              rcases ih hLater hAfter hRest with
                ⟨hEntries, hFault⟩
              rw [Readings.legible_cons_ok,
                Readings.fault?_cons_ok, List.filter_cons,
                ← hEntries, ← hFault]
              dsimp only
              split
              · exact ⟨rfl, rfl⟩
              · exact ⟨rfl, rfl⟩

/-
  A query that is started promises what its source gives, in
  order, and the fault that stops the reading.
-/
theorem promises_start
    {source : σ}
    {readings : Readings}
    {world : World}
    (hGives : Source.Gives files readings source)
    (filter : Option Filter)
    (options : QueryOptions)
    (projection : Projection)
    (hWorld : files world.tree world.directory) :
    (start source filter options projection
      world).1.Promises files
        ((Entry.sortBy options.sorts
          ((readings.legible options.skipErrors).filter
            (Filter.admits filter))).drop options.skip)
        (readings.fault? options.skipErrors) := by
  unfold start
  dsimp only
  cases hSorts : options.sorts with
  | nil =>
      rw [List.isEmpty_nil, if_pos rfl, Entry.sortBy_nil]
      exact ⟨rfl, readings, hGives, rfl, rfl⟩
  | cons key keys =>
      have hFeed :
          (Feed.drawn source).Gives files readings := hGives
      have hBound :
          readings.length < Source.bound source world + 1 :=
        Nat.lt_succ_of_le (Feed.length_le_bound hFeed hWorld)
      rcases collect_of_gives filter options.skipErrors hGives
          hWorld hBound with
        ⟨hEntries, hFault⟩
      rw [List.isEmpty_cons, if_neg Bool.false_ne_true]
      generalize collect filter options.skipErrors
        (Source.bound source world + 1) source world =
          collected at hEntries hFault ⊢
      rcases collected with ⟨entries, fault, after⟩
      cases hEntries
      cases hFault
      refine ⟨rfl, _, rfl, ?_, ?_⟩
      · have hAll (entries : List Entry) :
            entries.filter (Filter.admits none) = entries :=
          List.filter_eq_self.2 fun _ _ => rfl
        exact congrArg (List.drop options.skip)
          ((hAll _).trans (Readings.legible_ofEntries _ _ _))
      · exact (Readings.fault?_ofEntries _ _ _).trans
          (Readings.fault?_eq_ite _ _).symm

/- What a query is asked to hand out, and in which form. -/
theorem start_asks
    (source : σ)
    (filter : Option Filter)
    (options : QueryOptions)
    (projection : Projection)
    (world : World) :
    (start source filter options projection
        world).1.remaining = limitOf options ∧
      (start source filter options projection
        world).1.projection = projection := by
  unfold start
  split
  · exact ⟨rfl, rfl⟩
  · exact ⟨rfl, rfl⟩

/-
  The answers of a query, however often and in whatever worlds
  it is asked: what is read is filtered, ordered and cut to
  size, the fault comes behind it if more was asked for, and
  then there is nothing more.
-/
theorem answers_of_source
    {source : σ}
    {readings : Readings}
    {world : World}
    {worlds : List World}
    (hGives : Source.Gives files readings source)
    (filter : Option Filter)
    (options : QueryOptions)
    (projection : Projection)
    (hWorld : files world.tree world.directory)
    (hWorlds :
      ∀ world ∈ worlds, files world.tree world.directory) :
    ∃ ordered chosen : List Entry,
      (∀ other,
        Entry.IsSortOf options.sorts
            ((readings.legible options.skipErrors).filter
              (Filter.admits filter)) other ↔
          other = ordered) ∧
      chosen = options.cut (ordered.drop options.skip) ∧
      answers worlds
          (start source filter options projection world).1 =
        firstOf worlds.length
          (chosen.map
              (fun entry => .entry (projection.apply entry)) ++
            (if options.IsUsedUp chosen.length then none
              else readings.fault?
                options.skipErrors).toList.map .failed) := by
  have hPromises :=
    promises_start hGives filter options projection hWorld
  rcases start_asks source filter options projection world
    with ⟨hRemaining, hProjection⟩
  refine ⟨_, _, fun _ => Entry.isSortOf_iff, rfl, ?_⟩
  rw [answers_of_promises hPromises hWorlds, hRemaining,
    hProjection]
  unfold outcome
  simp only [QueryOptions.upTo_limitOf,
    QueryOptions.isUsedUp_iff]

/-
  The second and the third of three large files, where a fault
  stands behind them in the source and leaves out a fourth.
-/
theorem answers_of_source_broken :
    let file (path : String) (size : UInt64) : Entry :=
      { Entry.ofPath path { size := size } with
        symlink := some "/" }
    let fault : StoreFault := .iteration "broken"
    let readings : Readings :=
      [.ok (file "/a" 5), .ok (file "/b" 1),
        .ok (file "/c" 7), .ok (file "/d" 5), .error fault,
        .ok (file "/e" 9)]
    let options : QueryOptions :=
      { skip := 1
        limit := some 3
        sorts := [{ field := .size, ascending := false }] }
    answers [{}, {}, {}, {}, {}]
        (start readings
          (some (.compare .size .greater (.unsigned 2)))
          options { symlink := false } {}).1 =
      [.entry (Entry.ofPath "/a" { size := 5 }),
        .entry (Entry.ofPath "/d" { size := 5 }),
        .failed fault, .finished, .finished] := by
  intro file fault readings options
  have hGives :=
    Readings.gives (fun _ _ => True) readings
  rcases answers_of_source hGives
      (some (.compare .size .greater (.unsigned 2))) options
      { symlink := false } trivial (fun _ _ => trivial) with
    ⟨ordered, chosen, hOrdered, hChosen, hAnswers⟩
  have hSorted :
      [file "/c" 7, file "/a" 5, file "/d" 5] = ordered := by
    refine (hOrdered _).1 ⟨List.Perm.swap _ _ _, ?_, ?_⟩
    · simp only [← Entry.compareByAll_eq_lt_iff]
      decide +kernel
    · intro entry
      apply Entry.filter_ties_swap
      decide +kernel
  subst hSorted hChosen
  exact hAnswers

end Results

end TreeKeeper
