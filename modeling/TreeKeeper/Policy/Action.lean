import TreeKeeper.Store.Capabilities
import TreeKeeper.Text.CommandWords
import TreeKeeper.Text.Basic
import TreeKeeper.Text.Dictionary

/-
  The actions of policies: seven kinds, each with parameters.
  The command line of an external command is a parameter.

  Key definitions include:
    * `ActionKind`
    * `ActionKind.isDestructive`
    * `ActionKind.isSupported`
    * `Action`
    * `Action.ofText`
-/

------------------------------------------------------------
-- Kinds
------------------------------------------------------------

namespace TreeKeeper

/- The kinds of actions, in the order of reports. -/
inductive ActionKind where
| delete
| migrate
| log
| print
| count
| noop
| command
deriving DecidableEq

namespace ActionKind

/- Every kind, in the order of reports. -/
def all : List ActionKind :=
  [delete, migrate, log, print, count, noop, command]

/- Whether an action of a kind changes data. -/
def isDestructive : ActionKind → Bool
| delete => true
| migrate => true
| command => true
| _ => false

/- Whether a store allows actions of a kind at all. -/
def isSupported
    (kind : ActionKind)
    (capabilities : Capabilities) : Bool :=
  match kind with
  | delete => capabilities.delete
  | migrate => capabilities.migrate
  | _ => true

/- The name of a kind. -/
def title : ActionKind → String
| delete => "common:delete"
| migrate => "common:migrate"
| log => "common:log"
| print => "common:print"
| count => "common:count"
| noop => "common:noop"
| command => "cmd"

/- The kinds that policies ask for by their names. -/
def named : List ActionKind :=
  [delete, migrate, log, print, count, noop]

end ActionKind

------------------------------------------------------------
-- Actions
------------------------------------------------------------

/- A kind of action with parameters. -/
structure Action where
  kind : ActionKind
  parameters : Dictionary String
deriving DecidableEq

namespace Action

/- The parameter that holds a command line. -/
def commandKey : String :=
  "command"

/- The action that does nothing. -/
def nothing : Action where
  kind := .noop
  parameters := Dictionary.empty

/- Why a text asks for no action. -/
inductive Fault where
| emptyCommand
| unknown
| words (fault : CommandWords.Fault)
deriving DecidableEq

/- The report of a fault. -/
def Fault.message : Fault → String
| emptyCommand => "empty command"
| unknown => "unknown action"
| words fault => fault.message

/- The action of a command line that is not blank. -/
def ofCommand (template : List Char) : Except Fault Action :=
  let text := String.ofList template
  if (Text.trim template).isEmpty then .error .emptyCommand
  else
    match CommandWords.split text with
    | .error fault => .error (.words fault)
    | .ok _ =>
        .ok {
          kind := .command
          parameters :=
            Dictionary.empty.insert commandKey text }

/-
  The action that a text asks for: the name of a kind, or a
  command line behind its mark.
-/
def ofText (text : String) : Except Fault Action :=
  match ActionKind.named.find? fun k => k.title == text with
  | some kind => .ok ⟨kind, Dictionary.empty⟩
  | none =>
      match Text.stripBeginning "cmd:".toList text.toList with
      | some template => ofCommand template
      | none => .error .unknown

/- Add parameters, which yield to those of the action. -/
def withParameters
    (action : Action)
    (parameters : Dictionary String) : Action :=
  { action with
    parameters := parameters.override action.parameters }

end Action

end TreeKeeper
