import TreeKeeper.Text.Basic

/-
  Arguments of commands: options that take a value, options
  that do not, and what comes behind them.  A value stands
  behind its option or behind an equals sign.

  Key definitions include:
    * `OptionTable`
    * `Arguments`
    * `Refusal`
    * `OptionTable.read`
-/

------------------------------------------------------------
-- Tables And Results
------------------------------------------------------------

namespace TreeKeeper

/-
  The names of the options with a value and of those without
  one, the words at which reading stops, and the name that
  the command has in its version.
-/
structure OptionTable where
  valued : List String
  flags : List String
  stops : List String
  title : String

/- Why arguments are not carried out. -/
inductive Refusal where
| malformed
| help
| version (title : String)
deriving DecidableEq

/-
  The options that occur, with their values in order, and the
  word at which reading stopped with what is behind it.
-/
structure Arguments where
  options : List (String × Option String)
  stop : Option (String × List String)

namespace Arguments

/- The values of an option, in order. -/
def occurrences
    (arguments : Arguments)
    (name : String) : List (Option String) :=
  (arguments.options.filter fun o => o.1 == name).map
    Prod.snd

/- The value of an option that may occur once. -/
def value?
    (arguments : Arguments)
    (name : String) : Except Refusal (Option String) :=
  match arguments.occurrences name with
  | [] => .ok none
  | [some value] => .ok (some value)
  | _ => .error .malformed

/- The value of an option that must occur once. -/
def value
    (arguments : Arguments)
    (name : String) : Except Refusal String :=
  match arguments.value? name with
  | .ok (some value) => .ok value
  | _ => .error .malformed

/- Whether an option without a value occurs, at most once. -/
def isSet
    (arguments : Arguments)
    (name : String) : Except Refusal Bool :=
  match arguments.occurrences name with
  | [] => .ok false
  | [_] => .ok true
  | _ => .error .malformed

end Arguments

------------------------------------------------------------
-- Reading
------------------------------------------------------------

namespace OptionTable

/- What an argument with a hyphen in front asks for. -/
inductive Request where
| flag (name : String)
| valued (name : String) (value : Option String)
| refused (refusal : Refusal)

/- Whether an argument begins an option. -/
def beginsOption : List Char → Bool
| ['-'] => false
| '-' :: _ => true
| _ => false

/- Split an option at its first equals sign. -/
def splitValue
    (text : List Char) : String × Option String :=
  let name := String.ofList (text.takeWhile (· ≠ '='))
  match text.dropWhile (· ≠ '=') with
  | [] => (name, none)
  | _ :: value =>
      (name,
        some (String.ofList (value.dropWhile (· == '='))))

/- What a long option asks for. -/
def longRequest
    (table : OptionTable)
    (text : List Char) : Request :=
  let (name, value) := splitValue text
  if table.valued.contains name then .valued name value
  else if table.flags.contains name then .flag name
  else if name = "help" then .refused .help
  else if name = "version" then
    .refused (.version table.title)
  else .refused .malformed

/- What a short option asks for. -/
def shortRequest
    (table : OptionTable) : List Char → Request
| 'h' :: _ => .refused .help
| 'V' :: _ => .refused (.version table.title)
| _ => .refused .malformed

/- What an option asks for. -/
def request
    (table : OptionTable)
    (text : List Char) : Request :=
  match text with
  | '-' :: '-' :: rest =>
      table.longRequest (rest.dropWhile (· == '-'))
  | _ => table.shortRequest (text.drop 1)

/- Note an option in front of the others. -/
def noted
    (name : String)
    (value : Option String)
    (result : Except Refusal Arguments) :
    Except Refusal Arguments :=
  result.map fun arguments =>
    { arguments with
      options := (name, value) :: arguments.options }

/-
  Read the arguments of a command.  Two hyphens allow for
  nothing behind them, and an option that misses its value
  is noted without one.
-/
def read
    (table : OptionTable) :
    Option String → List String → Except Refusal Arguments
| none, [] => .ok ⟨[], none⟩
| some name, [] => noted name none (.ok ⟨[], none⟩)
| pending, arg :: rest =>
    let text := arg.toList
    if arg = "--" then
      match pending, rest with
      | none, [] => .ok ⟨[], none⟩
      | some name, [] => noted name none (.ok ⟨[], none⟩)
      | _, _ :: _ => .error .malformed
    else if beginsOption text then
      let result :=
        match table.request text with
        | .flag name => noted name none (read table none rest)
        | .valued name none => read table (some name) rest
        | .valued name (some value) =>
            noted name (some value) (read table none rest)
        | .refused refusal => .error refusal
      match pending with
      | some name => noted name none result
      | none => result
    else
      match pending with
      | some name =>
          noted name (some arg) (read table none rest)
      | none =>
          if table.stops.contains arg then
            .ok ⟨[], some (arg, rest)⟩
          else .error .malformed

end OptionTable

end TreeKeeper
