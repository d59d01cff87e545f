import TreeKeeper.Program.Basic
import TreeKeeper.Program.Condition
import TreeKeeper.Text.CommandWords

/-
  The programs that every system has: those that succeed or
  fail always, the one that checks a condition, and a shell
  for lists of them.  All other names are unknown.

  Key definitions include:
    * `Program.basic?`
    * `Program.runScript`
    * `Program.standard`
-/

------------------------------------------------------------
-- Simple Programs
------------------------------------------------------------

namespace TreeKeeper

namespace Program

/- The words of a condition in front of its bracket. -/
def bracketed? (args : List String) : Option (List String) :=
  if args.getLast? = some "]" then some args.dropLast
  else none

/- The status of a simple program, if it is known. -/
def basic?
    (world : World)
    (name : String)
    (args : List String) : Option Nat :=
  match name with
  | "true" => some 0
  | "false" => some 1
  | "echo" => some 0
  | "test" => some (Condition.status world args)
  | "[" =>
      match bracketed? args with
      | some args => some (Condition.status world args)
      | none => some 2
  | _ => none

------------------------------------------------------------
-- Scripts
------------------------------------------------------------

/- What joins a command to the one in front of it. -/
inductive Join where
| always
| ifSucceeded
| ifFailed
deriving DecidableEq

/- How the statement of a script that ends in a word joins. -/
def joinOf? : String → Option Join
| ";" => some .always
| "&&" => some .ifSucceeded
| "||" => some .ifFailed
| _ => none

/- Put blanks around semicolons, outside of quotes. -/
def spaceOut : Option Char → List Char → List Char
| _, [] => []
| none, c :: rest =>
    if c = '\'' ∨ c = '"' then c :: spaceOut (some c) rest
    else if c = ';' ∨ c = '\n' then
      ' ' :: ';' :: ' ' :: spaceOut none rest
    else c :: spaceOut none rest
| some quote, c :: rest =>
    c :: spaceOut (if c = quote then none else some quote)
      rest

/- The arguments of a script, with their marks. -/
def expansions
    (args : List String) : List (String × String) :=
  args.zipIdx.map fun (arg, n) => ("$" ++ toString n, arg)

/- A word with the arguments in place of their marks. -/
def expand (args : List String) (word : String) : String :=
  (expansions args).foldl
    (fun text (mark, value) => Text.replace text mark value)
    word

/- Split words where one of them joins commands. -/
def commandsOf :
    Join → List String → List String →
      List (Join × List String)
| join, current, [] => [(join, current.reverse)]
| join, current, word :: rest =>
    match joinOf? word with
    | some next =>
        (join, current.reverse) :: commandsOf next [] rest
    | none => commandsOf join (word :: current) rest

/- The status of a numeral, or that of a malformed one. -/
def exitStatus (arg : String) : Nat :=
  match Numeral.word64? arg with
  | some n => n.toNat % 256
  | none => 2

/- The mark that stands for the shell as a process. -/
def shellMark : String :=
  "$$"

/- The signal that a shell sends to itself. -/
def signalOf? : List String → Option Signal
| ["kill", process] =>
    if process = shellMark then some .terminate else none
| ["kill", option, process] =>
    if process = shellMark then
      match option.toList with
      | '-' :: name => Signal.ofText? (String.ofList name)
      | _ => none
    else none
| ["kill", "-s", name, process] =>
    if process = shellMark then Signal.ofText? name else none
| _ => none

/- Run commands after one that ended with a status. -/
def runCommands
    (world : World) :
    Nat → List (Join × List String) → Ending
| status, [] => .exited status
| status, (join, words) :: rest =>
    let isSkipped :=
      (join == .ifSucceeded && status != 0) ||
        (join == .ifFailed && status == 0)
    if isSkipped then runCommands world status rest
    else
      match words, signalOf? words with
      | _, some signal => .signalled signal
      | [], none => runCommands world status rest
      | ["exit"], none => .exited status
      | "exit" :: arg :: _, none => .exited (exitStatus arg)
      | name :: args, none =>
          match basic? world name args with
          | some status => runCommands world status rest
          | none => runCommands world 127 rest

/- Run a script with its arguments. -/
def runScript
    (world : World)
    (script : String)
    (args : List String) : Ending :=
  let text := String.ofList (spaceOut none script.toList)
  match CommandWords.split text with
  | .error _ => .exited 2
  | .ok words =>
      runCommands world 0
        (commandsOf .always [] (words.map (expand args)))

------------------------------------------------------------
-- Launching
------------------------------------------------------------

/- Start the program in the file at a path. -/
def launchFile
    (world : World)
    (path : String) : Except LaunchFault Ending :=
  match world.tree.objectAt true world.directory path with
  | .error fault => .error (.file fault)
  | .ok (_, .file attributes _) =>
      if attributes.permissions &&& 0o111 = 0 then
        .error (.file .denied)
      else .error (.file .noExecFormat)
  | .ok _ => .error (.file .denied)

/- Start a program by name. -/
def launchNamed
    (world : World)
    (name : String)
    (args : List String) : Except LaunchFault Ending :=
  match basic? world name args, name, args with
  | some status, _, _ => .ok (.exited status)
  | none, "sh", ["-c", script] =>
      .ok (runScript world script ["sh"])
  | none, "sh", "-c" :: script :: args =>
      .ok (runScript world script args)
  | none, "sh", _ => .ok (.exited 0)
  | none, _, _ => .error (.file .missing)

/- The directories that hold programs. -/
def programDirectories : List String :=
  ["/bin/", "/usr/bin/"]

/- The name of a program in one of these directories. -/
def systemName? (path : String) : Option String :=
  programDirectories.findSome? fun directory =>
    match Text.stripBeginning directory.toList path.toList with
    | some name =>
        if name.contains '/' then none
        else some (String.ofList name)
    | none => none

/- Start a program by name or path. -/
def launchWords
    (world : World)
    (words : List String) : Except LaunchFault Ending :=
  match words with
  | [] => .error .noWords
  | name :: args =>
      if name = "" then .error (.file .missing)
      else if name.toList.contains '/' then
        match systemName? name with
        | some name => launchNamed world name args
        | none => launchFile world name
      else launchNamed world name args

/- These programs change nothing in the world. -/
def standard : Launcher := fun world words =>
  (launchWords world words, world)

end Program

end TreeKeeper
