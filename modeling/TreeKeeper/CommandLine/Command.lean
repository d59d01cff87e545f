import TreeKeeper.Calendar.Timestamp
import TreeKeeper.CommandLine.Arguments
import TreeKeeper.World

/-
  Commands: a search with its arguments, or a run of a policy
  with its options, and what both have in common.

  Key definitions include:
    * `Verbosity`
    * `RunCommand`
    * `Command`
    * `Invocation`
    * `Invocation.ofArgs`
-/

------------------------------------------------------------
-- Verbosity
------------------------------------------------------------

namespace TreeKeeper

/- Which log records are shown. -/
inductive Verbosity where
| off
| error
| warning
| info
| debug
| trace
deriving DecidableEq

namespace Verbosity

/- The verbosity of a word. -/
def ofWord? (word : String) : Option Verbosity :=
  match word with
  | "off" => some off
  | "error" => some error
  | "warn" => some warning
  | "info" => some info
  | "debug" => some debug
  | "trace" => some trace
  | _ => none

/- Whether records of a level are shown. -/
def shows : Verbosity → LogLevel → Bool
| off, _ => false
| error, level => level == .error
| warning, level => level != .info
| _, _ => true

end Verbosity

------------------------------------------------------------
-- Commands
------------------------------------------------------------

/- What a run of a policy is asked to do. -/
structure RunCommand where
  policy : String
  index : String
  live : Option String
  dryRun : Bool
  skipErrors : Bool
  limit : Option Nat

/- What is asked for. -/
inductive Command where
| find (args : List String)
| run (command : RunCommand)

/- A command with what all commands have in common. -/
structure Invocation where
  verbosity : Verbosity
  logFile : Option String
  now : Option Int64
  command : Command

namespace Invocation

------------------------------------------------------------
-- Reading Commands
------------------------------------------------------------

/- The name of the program. -/
def program : String :=
  "fspolicy"

/- The options of all commands. -/
def commonOptions : OptionTable where
  valued := ["log-verbosity", "log-file", "now"]
  flags := []
  stops := ["find", "run", "help"]
  title := program

/- The options of runs. -/
def runOptions : OptionTable where
  valued := ["policy", "index", "live", "limit"]
  flags := ["dry-run", "skip-error"]
  stops := []
  title := program ++ "-run"

/- Read a value, if there is one. -/
def readMaybe
    {α : Type}
    (read : String → Option α) :
    Option String → Except Refusal (Option α)
| none => .ok none
| some text =>
    match read text with
    | some value => .ok (some value)
    | none => .error .malformed

/- Read the command of a run. -/
def readRun
    (args : List String) : Except Refusal RunCommand := do
  let arguments ← runOptions.read none args
  return {
    policy := ← arguments.value "policy"
    index := ← arguments.value "index"
    live := ← arguments.value? "live"
    dryRun := ← arguments.isSet "dry-run"
    skipErrors := ← arguments.isSet "skip-error"
    limit :=
      ← readMaybe
        (fun text => (Numeral.word64? text).map UInt64.toNat)
        (← arguments.value? "limit") }

/-
  Whether the first argument of a search asks for help or the
  version of the program instead.
-/
def refusalOf? (arg : String) : Option Refusal :=
  let version := Refusal.version (program ++ "-find")
  match arg.toList with
  | '-' :: '-' :: text =>
      let name :=
        (OptionTable.splitValue
          (text.dropWhile (· == '-'))).1
      if name = "help" then some .help
      else if name = "version" then some version
      else none
  | '-' :: c :: text =>
      if (c :: text).all fun c => c == 'h' || c == 'V' then
        some (if c = 'h' then .help else version)
      else none
  | _ => none

/-
  Read the arguments of a search.  Two hyphens in front of
  them do not belong to them.
-/
def readFind :
    List String → Except Refusal (List String)
| [] => .ok []
| arg :: rest =>
    if arg = "--" then .ok rest
    else
      match refusalOf? arg with
      | some refusal => .error refusal
      | none => .ok (arg :: rest)

/- Read what stands behind the common options. -/
def readCommand :
    Option (String × List String) → Except Refusal Command
| some ("find", args) => (readFind args).map .find
| some ("run", args) => (readRun args).map .run
| some ("help", args) =>
    if args.all commonOptions.stops.contains then
      .error .help
    else .error .malformed
| _ => .error .malformed

/- The seconds of a timestamp. -/
def instantOf? (text : String) : Option Int64 :=
  (Calendar.secondsOfTimestamp? text).map Int64.ofNat

/- Read an invocation of the program. -/
def ofArgs
    (args : List String) : Except Refusal Invocation := do
  let arguments ← commonOptions.read none args
  let command ← readCommand arguments.stop
  let verbosity ←
    readMaybe Verbosity.ofWord?
      (← arguments.value? "log-verbosity")
  return {
    verbosity := verbosity.getD .warning
    logFile := ← arguments.value? "log-file"
    now := ← readMaybe instantOf? (← arguments.value? "now")
    command := command }

end Invocation

end TreeKeeper
