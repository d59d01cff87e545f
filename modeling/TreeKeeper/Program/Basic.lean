import TreeKeeper.World

/-
  Programs that policies start.  A launcher tells how a
  program ends that is started with given words, and what it
  leaves of the world.  Words with a NUL character are never
  handed to it.

  Key definitions include:
    * `LaunchFault`
    * `Signal`
    * `Ending`
    * `Launcher`
    * `Launcher.start`
-/

------------------------------------------------------------
-- Faults
------------------------------------------------------------

namespace TreeKeeper

/- Why a program does not start. -/
inductive LaunchFault where
| file (fault : FileFault)
| noWords
| zeroCharacter
deriving DecidableEq

/- The report of a fault. -/
def LaunchFault.message : LaunchFault → String
| file fault => fault.message
| noWords => "empty command"
| zeroCharacter => "nul byte found in provided data"

------------------------------------------------------------
-- Endings
------------------------------------------------------------

/- Signals that end the programs they are sent to. -/
inductive Signal where
| hangUp
| interrupt
| kill
| userOne
| userTwo
| pipe
| alarm
| terminate
deriving DecidableEq

namespace Signal

/- All of these signals. -/
def all : List Signal :=
  [hangUp, interrupt, kill, userOne, userTwo, pipe, alarm,
    terminate]

/- The number of a signal. -/
def number : Signal → Nat
| hangUp => 1
| interrupt => 2
| kill => 9
| userOne => 10
| userTwo => 12
| pipe => 13
| alarm => 14
| terminate => 15

/- The short name of a signal. -/
def name : Signal → String
| hangUp => "HUP"
| interrupt => "INT"
| kill => "KILL"
| userOne => "USR1"
| userTwo => "USR2"
| pipe => "PIPE"
| alarm => "ALRM"
| terminate => "TERM"

/- The signal with a given name or number. -/
def ofText? (text : String) : Option Signal :=
  all.find? fun signal =>
    signal.name == text || "SIG" ++ signal.name == text ||
      toString signal.number == text

end Signal

/- How a program ends: by itself, or by a signal. -/
inductive Ending where
| exited (status : Nat)
| signalled (signal : Signal)
deriving DecidableEq

namespace Ending

/- Whether a program succeeds. -/
def isSuccess (ending : Ending) : Bool :=
  ending == exited 0

/- The report of an ending. -/
def text : Ending → String
| exited status => "exit status: " ++ toString status
| signalled signal =>
    "signal: " ++ toString signal.number ++
      " (SIG" ++ signal.name ++ ")"

end Ending

------------------------------------------------------------
-- Launchers
------------------------------------------------------------

/-
  How programs end that are started with given words, and the
  world behind them.
-/
abbrev Launcher :=
  World → List String → Except LaunchFault Ending × World

namespace Launcher

/- Whether a word has a NUL character in it. -/
def hasZero (words : List String) : Bool :=
  words.any fun word => word.toList.contains '\x00'

/- Start a program, unless its words cannot be handed over. -/
def start
    (launch : Launcher)
    (world : World)
    (words : List String) :
    Except LaunchFault Ending × World :=
  if hasZero words then (.error .zeroCharacter, world)
  else launch world words

end Launcher

end TreeKeeper
