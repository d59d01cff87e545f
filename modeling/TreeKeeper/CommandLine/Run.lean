import TreeKeeper.CommandLine.Command
import TreeKeeper.Policy.Reader
import TreeKeeper.Policy.Run
import TreeKeeper.Search.Run
import TreeKeeper.Store.Opened

/-
  Running commands.  The outcome holds the status of the
  program, its output, its reports, and the world that it
  leaves behind.

  Key definitions include:
    * `Outcome`
    * `RunCommand.run`
    * `Invocation.run`
-/

------------------------------------------------------------
-- Outcomes
------------------------------------------------------------

namespace TreeKeeper

/-
  What a program leaves behind.  The shown text holds the log
  records that the verbosity lets through.
-/
structure Outcome where
  status : Nat
  out : Sink
  reports : List String := []
  shown : String := ""
  world : World

namespace Outcome

/- The status of commands that are asked for wrongly. -/
def usageStatus : Nat :=
  64

/- The status of commands that fail. -/
def failureStatus : Nat :=
  1

/- The status of programs that an overflow ends. -/
def overflowStatus : Nat :=
  101

/- The outcome of a command without faults. -/
def success (out : Sink) (world : World) : Outcome where
  status := 0
  out := out
  world := world

/- The outcome of a command with a fault. -/
def failure
    (status : Nat)
    (report : String)
    (out : Sink)
    (world : World) : Outcome where
  status := status
  out := out
  reports := [report]
  world := world

end Outcome

------------------------------------------------------------
-- Searches
------------------------------------------------------------

/- The outcome of a search. -/
def Search.outcome
    (fault : Option SearchFault)
    (out : Sink)
    (world : World) : Outcome :=
  match fault with
  | none => .success out world
  | some .overflow =>
      .failure Outcome.overflowStatus
        SearchFault.overflow.message out world
  | some fault =>
      let status :=
        if fault.isUsage then Outcome.usageStatus
        else Outcome.failureStatus
      .failure status ("fspolicy find: " ++ fault.message) out
        world

/- Open the stores that arguments name and search them. -/
def Search.runArgs
    (args : List String)
    (now : Int64)
    (out : Sink)
    (world : World) : Outcome :=
  match Search.splitPlaces args with
  | .error fault => Search.outcome (some fault) out world
  | .ok (uris, expression) =>
      match Uri.openAll world uris with
      | .error fault =>
          Search.outcome (some (.store fault)) out world
      | .ok stores =>
          let (fault, search) :=
            Search.run expression {
              stores := stores
              out := out
              world := world
              now := now }
          Search.outcome fault search.out search.world

------------------------------------------------------------
-- Runs
------------------------------------------------------------

namespace RunCommand

/- Why a run does not start, with the status that it has. -/
structure Trouble where
  status : Nat
  text : String

/- Read a place. -/
def readUri (text : String) : Except Trouble Uri :=
  (Uri.ofText text).mapError fun fault =>
    ⟨Outcome.usageStatus,
      (StoreFault.badUri text fault).message⟩

/- Open a store. -/
def openUri
    (uri : Uri)
    (world : World) : Except Trouble OpenedStore :=
  (uri.open world).mapError fun fault =>
    ⟨Outcome.failureStatus, fault.message⟩

/- The predicates that expressions of a policy may use. -/
def registry (index live : OpenedStore) : Registry :=
  (Registry.builtin.registerAll
    (Store.predicates index)).registerAll
      (Store.predicates live)

/- How the index is queried. -/
def options (command : RunCommand) : QueryOptions where
  limit := command.limit
  skipErrors := command.skipErrors
  dryRun := command.dryRun

/- Open the stores and read the policy of a run. -/
def prepare
    (command : RunCommand)
    (now : Int64)
    (world : World) :
    Except Trouble (OpenedStore × OpenedStore × Policy) := do
  let index ← readUri command.index
  let live ← readUri (command.live.getD command.index)
  let index ← openUri index world
  let live ← openUri live world
  let context : Policy.Context := ⟨registry index live, now⟩
  match Policy.load context command.policy world with
  | .ok policy => return (index, live, policy)
  | .error fault =>
      throw ⟨Outcome.usageStatus, fault.message⟩

/- The outcome of a run that fails. -/
def failure
    (trouble : Trouble)
    (out : Sink)
    (world : World) : Outcome :=
  .failure trouble.status ("fspolicy run: " ++ trouble.text)
    out world

/- Run the policy of a command. -/
def run
    (command : RunCommand)
    (launch : Launcher)
    (now : Int64)
    (out : Sink)
    (world : World) : Outcome :=
  match command.prepare now world with
  | .error trouble => failure trouble out world
  | .ok (index, live, policy) =>
      let (result, stage) :=
        policy.run launch command.options {
          index := index
          live := live
          out := out
          world :=
            world.info
              ("loaded policy '" ++ policy.name ++ "'") }
      match result with
      | .ok _ => .success stage.out stage.world
      | .error fault =>
          failure ⟨Outcome.failureStatus, fault.message⟩
            stage.out stage.world

end RunCommand

------------------------------------------------------------
-- Invocations
------------------------------------------------------------

namespace Invocation

/- Run a command at a reference time. -/
def runCommand
    (command : Command)
    (launch : Launcher)
    (now : Int64)
    (out : Sink)
    (world : World) : Outcome :=
  match command with
  | .find args => Search.runArgs args now out world
  | .run command => command.run launch now out world

/- The line of a log record. -/
def logLine (entry : LogRecord) : String :=
  let mark :=
    match entry.level with
    | .error => "[ERROR] "
    | .warning => "[WARN] "
    | .info => "[INFO] "
  mark ++ entry.text ++ "\n"

/- The log records that are shown, as a text. -/
def logText
    (verbosity : Verbosity)
    (records : List LogRecord) : String :=
  String.join
    ((records.filter fun r => verbosity.shows r.level).map
      logLine)

/- Keep the log records of an outcome that are shown. -/
def showLog
    (verbosity : Verbosity)
    (outcome : Outcome) : Outcome :=
  { outcome with
    shown := logText verbosity outcome.world.log }

/- Add the text that is shown to the log file. -/
def writeLog
    (location : Location)
    (outcome : Outcome) : Outcome :=
  let world := outcome.world
  { outcome with
    world :=
      world.withTree
        (world.tree.appendText location outcome.shown) }

/- Run an invocation, with a log file if it names one. -/
def run
    (invocation : Invocation)
    (launch : Launcher)
    (clock : Int64)
    (out : Sink)
    (world : World) : Outcome :=
  let perform := fun world =>
    showLog invocation.verbosity
      (runCommand invocation.command launch
        (invocation.now.getD clock) out world)
  match invocation.logFile with
  | none => perform world
  | some path =>
      match world.tree.createFile world.directory path with
      | .error fault =>
          .failure Outcome.failureStatus
            ("fspolicy: cannot initialise logging: " ++
              fault.message)
            out world
      | .ok (location, tree) =>
          writeLog location (perform (world.withTree tree))

/- The version of the program. -/
def version : String :=
  "0.1.0"

/- The outcome of arguments that are not carried out. -/
def refuse
    (refusal : Refusal)
    (out : Sink)
    (world : World) : Outcome :=
  match refusal with
  | .malformed =>
      { status := Outcome.failureStatus
        out := out
        world := world }
  | .help => .success out world
  | .version title =>
      .success (out.write (title ++ " " ++ version ++ "\n")).2
        world

/- Run the program with its arguments. -/
def runArgs
    (args : List String)
    (launch : Launcher)
    (clock : Int64)
    (out : Sink)
    (world : World) : Outcome :=
  match Invocation.ofArgs args with
  | .error refusal => refuse refusal out world
  | .ok invocation => invocation.run launch clock out world

end Invocation

end TreeKeeper
