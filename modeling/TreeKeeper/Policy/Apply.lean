import TreeKeeper.Policy.Cache
import TreeKeeper.Program.Basic
import TreeKeeper.Sink
import TreeKeeper.Store.Event
import TreeKeeper.Text.Basic

/-
  Applying actions to entries.  An action works on the live
  store, and what it changes there is repeated on the index,
  whose faults are only logged.

  Key definitions include:
    * `ApplyFault`
    * `Stage`
    * `Stage.act`
    * `Stage.apply`
-/

------------------------------------------------------------
-- Faults
------------------------------------------------------------

namespace TreeKeeper

/- Why an action cannot be applied. -/
inductive ApplyFault where
| notSupported (kind : ActionKind) (store : String)
| store (fault : StoreFault)
| launch (command : String) (fault : LaunchFault)
| ending (command : String) (ending : Ending)
| output
deriving DecidableEq

namespace ApplyFault

/- The report of a fault. -/
def message : ApplyFault → String
| notSupported kind name =>
    "action '" ++ kind.title ++
      "' is not supported by the " ++ name ++ " backend"
| store fault => fault.message
| launch command fault =>
    "cannot run '" ++ command ++ "': " ++ fault.message
| ending command how =>
    "'" ++ command ++ "' failed: " ++ how.text
| output => Sink.faultText

/- The kind of action that needs an operation of a store. -/
def kindFor : StoreOperation → ActionKind
| .delete => .delete
| .migrate => .migrate

/- The fault of an action whose call on a store failed. -/
def ofStore : StoreFault → ApplyFault
| .unsupported name operation =>
    notSupported (kindFor operation) name
| fault => store fault

end ApplyFault

------------------------------------------------------------
-- Stages
------------------------------------------------------------

/- The two stores that take part in a run. -/
inductive Side where
| index
| live
deriving DecidableEq

/-
  The two stores with their surroundings, and what has
  happened on them so far.
-/
structure Stage (β γ : Type) where
  index : β
  live : γ
  out : Sink
  world : World
  events : List (Event Side) := []

namespace Stage

variable {β γ κ μ : Type}

/- Add an event. -/
def record
    (stage : Stage β γ)
    (event : Event Side) : Stage β γ :=
  { stage with events := stage.events ++ [event] }

/- Log an event. -/
def info (stage : Stage β γ) (text : String) : Stage β γ :=
  { stage with world := stage.world.info text }

/- Log a warning. -/
def warn (stage : Stage β γ) (text : String) : Stage β γ :=
  { stage with world := stage.world.warn text }

/- Write a text to the output. -/
def write
    (stage : Stage β γ)
    (text : String) : Bool × Stage β γ :=
  let (isComplete, out) := stage.out.write text
  (isComplete, { stage with out := out })

/- Remove an entry from the live store. -/
def removeLive
    [Store γ μ]
    (stage : Stage β γ)
    (entry : Entry) :
    Except StoreFault Unit × Stage β γ :=
  let (result, live, world) :=
    Store.remove stage.live entry stage.world
  (result,
    { stage with live := live, world := world }.record
      (.called .live (.remove entry) (succeeded result)))

/- Remove an entry from the index. -/
def removeIndexed
    [Store β κ]
    (stage : Stage β γ)
    (entry : Entry) :
    Except StoreFault Unit × Stage β γ :=
  let (result, index, world) :=
    Store.remove stage.index entry stage.world
  (result,
    { stage with index := index, world := world }.record
      (.called .index (.remove entry) (succeeded result)))

/- Migrate an entry of the live store. -/
def migrateLive
    [Store γ μ]
    (stage : Stage β γ)
    (entry : Entry)
    (parameters : Dictionary String) :
    Except StoreFault Unit × Stage β γ :=
  let (result, live, world) :=
    Store.migrate stage.live entry parameters stage.world
  (result,
    { stage with live := live, world := world }.record
      (.called .live (.migrate entry parameters)
        (succeeded result)))

/- Migrate an entry of the index. -/
def migrateIndexed
    [Store β κ]
    (stage : Stage β γ)
    (entry : Entry)
    (parameters : Dictionary String) :
    Except StoreFault Unit × Stage β γ :=
  let (result, index, world) :=
    Store.migrate stage.index entry parameters stage.world
  (result,
    { stage with index := index, world := world }.record
      (.called .index (.migrate entry parameters)
        (succeeded result)))

------------------------------------------------------------
-- Commands
------------------------------------------------------------

/- The text that stands for an entry in a command line. -/
def placeText
    [Store γ μ]
    (stage : Stage β γ)
    (entry : Entry) : String :=
  (Store.location? stage.live entry).getD entry.path

/- The mark that an entry takes the place of. -/
def placeMark : String :=
  "\x7b\x7d"

/- The words of a command line for a place. -/
def fillIn
    (words : List String)
    (place : String) : List String :=
  words.map fun word => Text.replace word placeMark place

/- Start a program for an entry and wait for its end. -/
def start
    (stage : Stage β γ)
    (launch : Launcher)
    (entry : Entry)
    (words : List String) :
    Except LaunchFault Ending × Stage β γ :=
  let (result, world) := launch.start stage.world words
  (result,
    { stage with world := world }.record
      (.launched entry words (succeeded result)))

/- What becomes of an action whose program was started. -/
def outcome
    (words : List String)
    (result : Except LaunchFault Ending) :
    Except ApplyFault Unit :=
  let command := Text.join " " words
  match result with
  | .error fault => .error (.launch command fault)
  | .ok ending =>
      if ending.isSuccess then .ok ()
      else .error (.ending command ending)

/- Run the program of an action. -/
def run
    [Store γ μ]
    (stage : Stage β γ)
    (launch : Launcher)
    (prepared : Prepared)
    (entry : Entry) :
    Except ApplyFault Unit × Stage β γ :=
  let words := fillIn prepared.words (stage.placeText entry)
  if words.isEmpty then
    (outcome words (.error .noWords), stage)
  else
    let (result, stage) := stage.start launch entry words
    (outcome words result, stage)

------------------------------------------------------------
-- Actions
------------------------------------------------------------

/- Delete an entry from the live store and the index. -/
def delete
    [Store β κ]
    [Store γ μ]
    (stage : Stage β γ)
    (entry : Entry) :
    Except ApplyFault Unit × Stage β γ :=
  match stage.removeLive entry with
  | (.error fault, stage) => (.error (.ofStore fault), stage)
  | (.ok (), stage) =>
      if (Store.capabilities stage.index).delete then
        match stage.removeIndexed entry with
        | (.ok (), stage) => (.ok (), stage)
        | (.error fault, stage) =>
            (.ok (),
              stage.warn
                ("'" ++ entry.path ++
                  "' deleted but still indexed: " ++
                  fault.message))
      else (.ok (), stage)

/- Migrate an entry of the live store and the index. -/
def migrate
    [Store β κ]
    [Store γ μ]
    (stage : Stage β γ)
    (entry : Entry)
    (parameters : Dictionary String) :
    Except ApplyFault Unit × Stage β γ :=
  match stage.migrateLive entry parameters with
  | (.error fault, stage) => (.error (.ofStore fault), stage)
  | (.ok (), stage) =>
      if (Store.capabilities stage.index).migrate then
        match stage.migrateIndexed entry parameters with
        | (.ok (), stage) => (.ok (), stage)
        | (.error fault, stage) =>
            (.ok (),
              stage.warn
                ("'" ++ entry.path ++
                  "' migrated but not reindexed: " ++
                  fault.message))
      else (.ok (), stage)

/- Carry out an action on an entry. -/
def act
    [Store β κ]
    [Store γ μ]
    (stage : Stage β γ)
    (launch : Launcher)
    (prepared : Prepared)
    (entry : Entry) :
    Except ApplyFault Unit × Stage β γ :=
  match prepared.kind with
  | .delete => stage.delete entry
  | .migrate => stage.migrate entry prepared.parameters
  | .command => stage.run launch prepared entry
  | .log =>
      (.ok (),
        stage.info
          ("[" ++ prepared.rule ++ "] " ++ entry.path))
  | .print =>
      match stage.write (entry.path ++ "\n") with
      | (true, stage) => (.ok (), stage)
      | (false, stage) => (.error .output, stage)
  | .count => (.ok (), stage)
  | .noop => (.ok (), stage)

/-
  Apply an action to an entry.  Actions that the live store
  does not support fail, and in a dry run those that change
  data are only logged.
-/
def apply
    [Store β κ]
    [Store γ μ]
    (stage : Stage β γ)
    (launch : Launcher)
    (prepared : Prepared)
    (dryRun : Bool)
    (entry : Entry) :
    Except ApplyFault Unit × Stage β γ :=
  if !prepared.kind.isSupported
      (Store.capabilities stage.live) then
    (.error
      (.notSupported prepared.kind (Store.name stage.live)),
      stage)
  else if dryRun && prepared.kind.isDestructive then
    (.ok (),
      stage.info
        ("[" ++ prepared.rule ++ "] would apply '" ++
          prepared.kind.title ++ "' to '" ++ entry.path ++
          "'"))
  else stage.act launch prepared entry

end Stage

end TreeKeeper
