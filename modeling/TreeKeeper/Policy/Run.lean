import TreeKeeper.Policy.Apply

/-
  Running policies.  Entries come from the index, are read
  again from the live store, and get the action that the
  policy selects for them.  At the end both stores are
  flushed, whatever has happened.

  Key definitions include:
    * `RunStats`
    * `RunFault`
    * `Course`
    * `Course.handle`
    * `Course.drive`
    * `Policy.run`
-/

------------------------------------------------------------
-- Statistics And Faults
------------------------------------------------------------

namespace TreeKeeper

/-
  What became of the entries of a run, and the states of the
  kinds of actions at its end.
-/
structure RunStats where
  fetched : Nat := 0
  vanished : Nat := 0
  excluded : Nat := 0
  unmatched : Nat := 0
  applied : Nat := 0
  failed : Nat := 0
  kinds : List (ActionKind × KindState) := []

/- The number of entries that still existed. -/
def RunStats.processed (stats : RunStats) : Nat :=
  stats.fetched - stats.vanished

/- Why a run fails. -/
inductive RunFault where
| query (fault : StoreFault)
| iteration (fault : StoreFault)
| flush (store : String) (fault : StoreFault)
| output
deriving DecidableEq

/- The report of a fault of a run. -/
def RunFault.message : RunFault → String
| query fault =>
    "querying the index failed: " ++ fault.message
| iteration fault =>
    "reading the index failed: " ++ fault.message
| flush store fault =>
    "flushing the " ++ store ++ " backend failed: " ++
      fault.message
| output => Sink.faultText

------------------------------------------------------------
-- Courses
------------------------------------------------------------

/- The state of a run. -/
structure Course (β γ : Type) where
  stage : Stage β γ
  cache : ActionCache
  stats : RunStats := {}

namespace Course

variable {β γ κ μ : Type}

/- Change the statistics. -/
def tally
    (course : Course β γ)
    (change : RunStats → RunStats) : Course β γ :=
  { course with stats := change course.stats }

/- Count an entry that is gone, and log why. -/
def vanish
    (course : Course β γ)
    (text : String) : Course β γ :=
  { course with stage := course.stage.warn text }.tally
    fun stats => { stats with vanished := stats.vanished + 1 }

/- Read an entry again from the live store. -/
def refresh
    [Store γ μ]
    (course : Course β γ)
    (entry : Entry) :
    Except StoreFault (Option Entry) × Course β γ :=
  let stage := course.stage
  let result := Store.fresh stage.live entry stage.world
  let answer :=
    match result with
    | .ok answer => answer
    | .error _ => none
  (result,
    { course with
      stage :=
        stage.record
          (.called .live (.fresh entry answer)
            (succeeded result)) })

/- Count the outcome of an action, and log a failure. -/
def conclude
    (course : Course β γ)
    (prepared : Prepared)
    (entry : Entry) :
    Except ApplyFault Unit → Course β γ
| .ok () =>
    { course with
      cache := course.cache.record prepared.kind true }.tally
      fun stats => { stats with applied := stats.applied + 1 }
| .error fault =>
    { course with
      cache := course.cache.record prepared.kind false
      stage :=
        course.stage.warn
          ("[" ++ prepared.rule ++ "] '" ++
            prepared.kind.title ++ "' on '" ++ entry.path ++
            "' failed: " ++ fault.message) }.tally
      fun stats => { stats with failed := stats.failed + 1 }

/- Apply the action that is prepared for a selection. -/
def perform
    [Store β κ]
    [Store γ μ]
    (launch : Launcher)
    (policy : Policy)
    (dryRun : Bool)
    (selection : Selection)
    (entry : Entry)
    (course : Course β γ) : Course β γ :=
  let (prepared, cache) :=
    course.cache.prepare policy selection
  let course := { course with cache := cache }
  match prepared with
  | none => course
  | some prepared =>
      let (result, stage) :=
        course.stage.apply launch prepared dryRun entry
      { course with stage := stage }.conclude prepared entry
        result

/- Count a selection. -/
def countSelection
    (course : Course β γ) : Selection → Course β γ
| .excluded =>
    course.tally fun stats =>
      { stats with excluded := stats.excluded + 1 }
| .unmatched =>
    course.tally fun stats =>
      { stats with unmatched := stats.unmatched + 1 }
| .matched _ => course

/- Select and apply an action for an entry. -/
def decide
    [Store β κ]
    [Store γ μ]
    (launch : Launcher)
    (policy : Policy)
    (dryRun : Bool)
    (entry : Entry)
    (course : Course β γ) : Course β γ :=
  let selection := policy.select entry
  (course.countSelection selection).perform launch policy
    dryRun selection entry

/- Handle one entry of the index. -/
def handle
    [Store β κ]
    [Store γ μ]
    (launch : Launcher)
    (policy : Policy)
    (dryRun : Bool)
    (stale : Entry)
    (course : Course β γ) : Course β γ :=
  let course :=
    { course with
      stage := course.stage.record (.fetched stale) }.tally
      fun stats => { stats with fetched := stats.fetched + 1 }
  match course.refresh stale with
  | (.ok (some entry), course) =>
      course.decide launch policy dryRun entry
  | (.ok none, course) =>
      course.vanish
        ("'" ++ stale.path ++ "' vanished since it was indexed")
  | (.error fault, course) =>
      course.vanish
        ("cannot check '" ++ stale.path ++ "': " ++
          fault.message)

/- Replace the world. -/
def withWorld
    (course : Course β γ)
    (world : World) : Course β γ :=
  { course with stage := { course.stage with world := world } }

/-
  Handle entries until the cursor ends or fails, with a limit
  on the number of steps.
-/
def drive
    [Store β κ]
    [Store γ μ]
    (launch : Launcher)
    (policy : Policy)
    (dryRun : Bool) :
    Nat → κ → Course β γ → Option StoreFault × Course β γ
| 0, _, course => (none, course)
| steps + 1, cursor, course =>
    match Store.fetch β cursor course.stage.world with
    | (.finished, _, world) => (none, course.withWorld world)
    | (.failed fault, _, world) =>
        (some fault, course.withWorld world)
    | (.again, cursor, world) =>
        drive launch policy dryRun steps cursor
          (course.withWorld world)
    | (.entry entry, cursor, world) =>
        drive launch policy dryRun steps cursor
          ((course.withWorld world).handle launch policy
            dryRun entry)

end Course

------------------------------------------------------------
-- Flushing
------------------------------------------------------------

namespace Stage

variable {β γ κ μ : Type}

/- Log that a store could not be flushed. -/
def reportFlush
    (stage : Stage β γ)
    (name : String) :
    Except StoreFault Unit → Option RunFault × Stage β γ
| .ok () => (none, stage)
| .error fault =>
    (some (.flush name fault),
      stage.warn (RunFault.flush name fault).message)

/- Flush the live store. -/
def flushLive
    [Store γ μ]
    (stage : Stage β γ) : Option RunFault × Stage β γ :=
  let (result, live, world) :=
    Store.flush stage.live stage.world
  let stage :=
    { stage with live := live, world := world }.record
      (.called .live .flush (succeeded result))
  stage.reportFlush (Store.name stage.live) result

/- Flush the index. -/
def flushIndex
    [Store β κ]
    (stage : Stage β γ) : Option RunFault × Stage β γ :=
  let (result, index, world) :=
    Store.flush stage.index stage.world
  let stage :=
    { stage with index := index, world := world }.record
      (.called .index .flush (succeeded result))
  stage.reportFlush (Store.name stage.index) result

/- Flush both stores and give the first fault. -/
def flush
    [Store β κ]
    [Store γ μ]
    (stage : Stage β γ) : Option RunFault × Stage β γ :=
  let (liveFault, stage) := stage.flushLive
  let (indexFault, stage) := stage.flushIndex
  (liveFault.or indexFault, stage)

end Stage

------------------------------------------------------------
-- Runs
------------------------------------------------------------

namespace Policy

variable {β γ κ μ : Type}

/- The line that reports the number of counted entries. -/
def countLine (count : Nat) : String :=
  toString count ++ " matching entries\n"

/- The log record of a run that is done. -/
def summary (policy : Policy) (stats : RunStats) : String :=
  "policy '" ++ policy.name ++ "' done: " ++
    toString stats.processed ++ " processed, " ++
    toString stats.vanished ++ " vanished, " ++
    toString stats.excluded ++ " excluded, " ++
    toString stats.unmatched ++ " unmatched, " ++
    toString stats.applied ++ " applied, " ++
    toString stats.failed ++ " failed"

/- Write the number of counted entries, if any kind counts. -/
def writeCount
    (stats : RunStats)
    (stage : Stage β γ) : Bool × Stage β γ :=
  match stats.kinds.lookup .count with
  | some state => stage.write (countLine state.applied)
  | none => (true, stage)

/- Report the end of a run without faults. -/
def finish
    (policy : Policy)
    (stats : RunStats)
    (stage : Stage β γ) :
    Except RunFault RunStats × Stage β γ :=
  match writeCount stats stage with
  | (false, stage) => (.error .output, stage)
  | (true, stage) =>
      (.ok stats, stage.info (policy.summary stats))

/- The query of a run: its order yields to the options. -/
def queryOptions
    (policy : Policy)
    (options : QueryOptions) : QueryOptions :=
  if options.sorts.isEmpty then
    { options with sorts := policy.sorts }
  else options

/- Ask the index for the entries of a run. -/
def query
    [Store β κ]
    (policy : Policy)
    (options : QueryOptions)
    (stage : Stage β γ) :
    Except StoreFault κ × Stage β γ :=
  let (result, world) :=
    Store.query stage.index policy.filter options {}
      stage.world
  (result,
    { stage with world := world }.record
      (.called .index (.query policy.filter options)
        (succeeded result)))

/- Log the start of a run. -/
def announce
    (policy : Policy)
    (stage : Stage β γ) : Stage β γ :=
  stage.info
    ("running policy '" ++ policy.name ++ "' (" ++
      toString policy.rules.length ++ " rules)")

/-
  Run a policy.  A fault of the query or the cursor comes
  before one of flushing, which comes before one of output.
-/
def run
    [Store β κ]
    [Store γ μ]
    (policy : Policy)
    (launch : Launcher)
    (options : QueryOptions)
    (stage : Stage β γ) :
    Except RunFault RunStats × Stage β γ :=
  let stage := policy.announce stage
  match policy.query (policy.queryOptions options) stage with
  | (.error fault, stage) =>
      (.error (.query fault), stage.flush.2)
  | (.ok cursor, stage) =>
      let course : Course β γ := {
        stage := stage
        cache := {
          capabilities := Store.capabilities stage.live } }
      let (fault, course) :=
        course.drive launch policy options.dryRun
          (Store.bound β cursor stage.world + 1) cursor
      let (kinds, _) := course.cache.release
      let stats := { course.stats with kinds := kinds }
      let (flushFault, stage) := course.stage.flush
      match fault, flushFault with
      | some fault, _ => (.error (.iteration fault), stage)
      | none, some fault => (.error fault, stage)
      | none, none => policy.finish stats stage

end Policy

end TreeKeeper
