import TreeKeeper.Expression.Reader
import TreeKeeper.Policy.Basic
import TreeKeeper.Policy.Document
import TreeKeeper.Predicate.Builtin
import TreeKeeper.Text.Blank
import TreeKeeper.World

/-
  Reading policies.  The classes of a policy name filters
  that later expressions use, and every expression is read
  with the predicates of the stores and the classes in front
  of it.

  Key definitions include:
    * `PolicyFault`
    * `Policy.readClasses`
    * `Policy.ofDocument`
    * `Policy.ofText`
    * `Policy.load`
-/

------------------------------------------------------------
-- Faults
------------------------------------------------------------

namespace TreeKeeper

/- Why a class is refused. -/
inductive ClassFault where
| name
| emptyFilter (title : String)
deriving DecidableEq

/- The report of a fault of a class. -/
def ClassFault.message : ClassFault → String
| name => "name must be a non-empty string"
| emptyFilter title =>
    "invalid fileclass '" ++ title ++ "': empty filter"

/- Why a policy cannot be read. -/
inductive PolicyFault where
| unreadable (path : String) (fault : FileFault)
| malformed
| filter (owner : String) (fault : ExpressionFault)
| action
    (owner : String)
    (text : String)
    (fault : Action.Fault)
| notScalar (owner : String) (key : String)
| sort (owner : String)
| fileClass (fault : ClassFault)
deriving DecidableEq

/- The report of a fault of a policy. -/
def PolicyFault.message : PolicyFault → String
| unreadable path fault =>
    "cannot read policy '" ++ path ++ "': " ++ fault.message
| malformed => "malformed policy"
| filter owner fault =>
    "invalid filter of '" ++ owner ++ "': " ++ fault.message
| action owner text fault =>
    "invalid action '" ++ text ++ "' of '" ++ owner ++
      "': " ++ fault.message
| notScalar owner key =>
    "'" ++ key ++ "' of '" ++ owner ++
      "' must be a string, a number or a boolean"
| sort owner =>
    "sort directives are not allowed in the filter of '" ++
      owner ++ "'"
| fileClass fault => fault.message

------------------------------------------------------------
-- Parts Of Policies
------------------------------------------------------------

namespace Policy

/- What expressions are read with. -/
structure Context where
  registry : Registry
  now : Int64

/- The words of a list of arguments. -/
def wordsOf
    (owner : String) :
    List Yaml.Value → Except PolicyFault (List String)
| [] => .ok []
| value :: rest =>
    match value.scalarText? with
    | none => .error (.notScalar owner "filter")
    | some word =>
        (wordsOf owner rest).map (word :: ·)

/- The words of a filter. -/
def filterWords
    (owner : String) :
    FilterText → Except PolicyFault (List String)
| .line text => .ok (Text.words text)
| .tokens values => wordsOf owner values

/- Read a filter and its sort keys. -/
def readFilter
    (context : Context)
    (owner : String)
    (filter : Option FilterText) :
    Except PolicyFault (Option Filter × List SortKey) :=
  match filter with
  | none => .ok (none, [])
  | some text =>
      match filterWords owner text with
      | .error fault => .error fault
      | .ok words =>
          (Expression.compile context.registry context.now
            words).mapError (.filter owner)

/- Read a filter that must not have sort keys. -/
def readUnsorted
    (context : Context)
    (owner : String)
    (filter : Option FilterText) :
    Except PolicyFault (Option Filter) :=
  match readFilter context owner filter with
  | .error fault => .error fault
  | .ok (filter, []) => .ok filter
  | .ok (_, _ :: _) => .error (.sort owner)

/- The texts of parameters, in the order of their keys. -/
def parameterTexts
    (owner : String) :
    List (String × Yaml.Value) →
      Except PolicyFault (List (String × String))
| [] => .ok []
| (key, value) :: rest =>
    match value.scalarText? with
    | none => .error (.notScalar owner key)
    | some text =>
        (parameterTexts owner rest).map ((key, text) :: ·)

/- Read an action and its parameters. -/
def readAction
    (owner : String)
    (text : String)
    (parameters : Dictionary Yaml.Value) :
    Except PolicyFault Action :=
  match Action.ofText text with
  | .error fault => .error (.action owner text fault)
  | .ok action =>
      (parameterTexts owner parameters.pairs).map fun texts =>
        action.withParameters (Dictionary.ofList texts)

------------------------------------------------------------
-- Classes
------------------------------------------------------------

/- Add the predicate for the classes so far. -/
def Context.withClasses
    (context : Context)
    (classes : List (String × Filter)) : Context :=
  { context with
    registry :=
      context.registry.register
        (Predicate.fileClass classes) }

/- The name of a class. -/
def className? : Yaml.Value → Option String
| .string name => if name = "" then none else some name
| _ => none

/- Read the filter of a class, which must not be empty. -/
def readClass
    (context : Context)
    (name : String)
    (value : Yaml.Value) : Except PolicyFault Filter :=
  match FilterText.ofValue? value with
  | none => .error .malformed
  | some text =>
      match readFilter context name (some text) with
      | .error fault => .error fault
      | .ok (none, _) =>
          .error (.fileClass (.emptyFilter name))
      | .ok (some filter, []) => .ok filter
      | .ok (some _, _ :: _) => .error (.sort name)

/- Read classes, each with those in front of it. -/
def readClasses
    (context : Context)
    (classes : List (String × Filter)) :
    List (Yaml.Value × Yaml.Value) →
      Except PolicyFault (List (String × Filter))
| [] => .ok classes
| (key, value) :: rest =>
    match className? key with
    | none => .error (.fileClass .name)
    | some name =>
        match readClass (context.withClasses classes) name
            value with
        | .error fault => .error fault
        | .ok filter =>
            readClasses context ((name, filter) :: classes)
              rest

------------------------------------------------------------
-- Rules
------------------------------------------------------------

/- The name of a rule without one, by its place from one. -/
def defaultRuleName (number : Nat) : String :=
  "rule #" ++ toString number

/- Read a rule. -/
def readRule
    (context : Context)
    (number : Nat)
    (text : RuleText) : Except PolicyFault Rule :=
  let name := text.name.getD (defaultRuleName number)
  match readUnsorted context name text.filter with
  | .error fault => .error fault
  | .ok filter =>
      (readAction name text.action text.parameters).map
        fun action => ⟨name, filter, action⟩

/- Read rules that are counted from a number. -/
def readRules
    (context : Context) :
    Nat → List RuleText → Except PolicyFault (List Rule)
| _, [] => .ok []
| number, text :: rest =>
    match readRule context number text with
    | .error fault => .error fault
    | .ok rule =>
        (readRules context (number + 1) rest).map
          (rule :: ·)

------------------------------------------------------------
-- Policies
------------------------------------------------------------

/- Read the parts of a policy. -/
def ofDocument
    (context : Context)
    (document : Document) : Except PolicyFault Policy := do
  let classes ← readClasses context [] document.classes
  let context := context.withClasses classes
  let (filter, sorts) ←
    readFilter context document.name document.filter
  let fallback ←
    readAction document.name document.action
      document.parameters
  let rules ← readRules context 1 document.rules
  return {
    name := document.name
    filter := filter
    sorts := sorts
    rules := rules
    fallback := fallback }

/- Read a policy. -/
def ofText
    (context : Context)
    (text : String) : Except PolicyFault Policy :=
  match Document.ofText? text with
  | none => .error .malformed
  | some document => ofDocument context document

/- Read the policy in the file at a path. -/
def load
    (context : Context)
    (path : String)
    (world : World) : Except PolicyFault Policy :=
  match world.tree.readText world.directory path with
  | .error fault => .error (.unreadable path fault)
  | .ok text => ofText context text

end Policy

end TreeKeeper
