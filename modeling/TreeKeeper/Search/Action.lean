import TreeKeeper.Expression.Reader
import TreeKeeper.Search.Format
import TreeKeeper.Sink
import TreeKeeper.Store.Basic

/-
  The actions of searches: writing the matches to the output
  or to a file, counting them, deleting them, and stopping at
  the first of them.

  Key definitions include:
    * `OutputFault`
    * `SearchFault`
    * `Rendering`
    * `SearchAction`
    * `SearchAction.ofRequest`
-/

------------------------------------------------------------
-- Faults
------------------------------------------------------------

namespace TreeKeeper

/- Why output cannot be written. -/
inductive OutputFault where
| full
| file (fault : FileFault)
deriving DecidableEq

/- The report of a fault of output. -/
def OutputFault.message : OutputFault → String
| full => Sink.faultText
| file fault =>
    "failed to write output: " ++ fault.message

/-
  Why a search fails.  An overflow ends the whole program, in
  the middle of what it writes.
-/
inductive SearchFault where
| expression (fault : ExpressionFault)
| store (fault : StoreFault)
| output (fault : OutputFault)
| overflow
| reserved (name : String)
| failures (count : Nat)
deriving DecidableEq

namespace SearchFault

/- The report of a fault of a search. -/
def message : SearchFault → String
| expression fault => fault.message
| store fault => fault.message
| output fault => fault.message
| overflow => "attempt to add with overflow"
| reserved name => "action '" ++ name ++ "' is not implemented"
| failures count =>
    "failed to delete " ++ toString count ++ " entries"

/- Whether a search was asked for in a wrong way. -/
def isUsage : SearchFault → Bool
| expression _ => true
| store (.badUri ..) => true
| _ => false

end SearchFault

------------------------------------------------------------
-- Actions
------------------------------------------------------------

/- How an entry is written. -/
inductive Rendering where
| path (terminator : Char)
| listing
| format (format : Format)

/- What is done with the matches.  No file means the output. -/
inductive SearchAction where
| write (file : Option String) (rendering : Rendering)
| count
| delete
| quit

namespace Rendering

/-
  The texts that are written for an entry, unless a number in
  them overflows.
-/
def texts?
    (rendering : Rendering)
    (now : Int64)
    (entry : Entry) : Option (List String) :=
  match rendering with
  | path terminator =>
      some [entry.path, String.singleton terminator]
  | listing =>
      (Listing.line? entry now).map fun line => [line, "\n"]
  | format pieces =>
      (Format.render? pieces entry).map fun text => [text]

end Rendering

namespace SearchAction

/- The action of a search that asks for none. -/
def print : SearchAction :=
  write none (.path '\n')

/- Whether all that an action does is to look for a match. -/
def isQuit : SearchAction → Bool
| quit => true
| _ => false

/- The names that stand for no action yet. -/
def reserved : List String :=
  ["-exec", "-execdir", "-ok", "-okdir", "-prune"]

/- One argument of a request. -/
def argument
    (request : ActionRequest)
    (index : Nat) : Except SearchFault String :=
  match request.args[index]? with
  | some arg => .ok arg
  | none => .error (.expression (.missingArgument request.name))

/- The format in one argument of a request. -/
def formatArgument
    (request : ActionRequest)
    (index : Nat) : Except SearchFault Rendering := do
  let text ← argument request index
  match Format.ofText text with
  | .ok format => return .format format
  | .error fault =>
      throw (.expression
        (.invalidArgument request.name text (.format fault)))

/- Write to the file in the first argument of a request. -/
def writeFile
    (request : ActionRequest)
    (rendering : Except SearchFault Rendering) :
    Except SearchFault SearchAction := do
  let file ← argument request 0
  return write (some file) (← rendering)

/- The action that is requested. -/
def ofRequest
    (request : ActionRequest) :
    Except SearchFault SearchAction :=
  if reserved.contains request.name then
    .error (.reserved request.name)
  else
    match request.name with
    | "-print" => .ok (write none (.path '\n'))
    | "-print0" => .ok (write none (.path '\x00'))
    | "-fprint" => writeFile request (.ok (.path '\n'))
    | "-fprint0" => writeFile request (.ok (.path '\x00'))
    | "-ls" => .ok (write none .listing)
    | "-fls" => writeFile request (.ok .listing)
    | "-printf" =>
        (formatArgument request 0).map (write none)
    | "-fprintf" =>
        writeFile request (formatArgument request 1)
    | "-count" => .ok count
    | "-delete" => .ok delete
    | "-quit" => .ok quit
    | name => .error (.expression (.unknownAction name))

end SearchAction

end TreeKeeper
