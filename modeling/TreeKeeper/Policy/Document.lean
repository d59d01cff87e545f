import TreeKeeper.Text.Dictionary
import TreeKeeper.Yaml.Value

/-
  Policies as they are written in a file.  Fields have fixed
  names, each of which may occur once, and may also be given
  in order without their names.

  Key definitions include:
    * `FilterText`
    * `RuleText`
    * `Document`
    * `Document.ofText?`
-/

------------------------------------------------------------
-- Documents
------------------------------------------------------------

namespace TreeKeeper

/- A filter as one line, or as a list of arguments. -/
inductive FilterText where
| line (text : String)
| tokens (values : List Yaml.Value)

/- A rule as it is written. -/
structure RuleText where
  name : Option String
  filter : Option FilterText
  action : String
  parameters : Dictionary Yaml.Value

/- A policy as it is written. -/
structure Document where
  classes : List (Yaml.Value × Yaml.Value)
  name : String
  filter : Option FilterText
  action : String
  parameters : Dictionary Yaml.Value
  rules : List RuleText

------------------------------------------------------------
-- Fields
------------------------------------------------------------

namespace Yaml

/- The text of any scalar. -/
def Node.text? : Node → Option String
| .scalar _ _ text => some text
| _ => none

/-
  Whether a node stands for something.  It is refused if it
  claims to stand for nothing and does not.
-/
def Node.isPresent? : Node → Option Bool
| .scalar none true text =>
    some (!(text == "" || isNullWord text))
| .scalar (some tag) true text =>
    if Value.standardTag? tag = some "null" then
      if isNullWord text then some false else none
    else some true
| _ => some true

/- Read a node that may stand for nothing. -/
def Node.optional?
    {α : Type}
    (read : Node → Option α)
    (node : Node) : Option (Option α) :=
  match node.isPresent? with
  | none => none
  | some false => some none
  | some true => (read node).map some

/- The items of a sequence, or of nothing at all. -/
def Node.items? : Node → Option (List Node)
| .sequence _ items => some items
| .scalar _ true "" => some []
| _ => none

/- The pairs of a mapping, or of nothing at all. -/
def Node.pairs? : Node → Option (List (Node × Node))
| .mapping _ pairs => some pairs
| .scalar _ true "" => some []
| _ => none

/- Give the nodes of a sequence the names of fields. -/
def nameItems :
    List String → List Node → Option (List (String × Node))
| _, [] => some []
| [], _ :: _ => none
| name :: names, item :: items =>
    (nameItems names items).map ((name, item) :: ·)

/- The fields of a mapping, all known and each only once. -/
def namePairs
    (names : List String) :
    List (Node × Node) → Option (List (String × Node))
| [] => some []
| (key, node) :: rest =>
    match key.text?, namePairs names rest with
    | some name, some fields =>
        if names.contains name &&
            (fields.lookup name).isNone then
          some ((name, node) :: fields)
        else none
    | _, _ => none

/- The fields of a record. -/
def Node.record?
    (names : List String)
    (node : Node) : Option (List (String × Node)) :=
  match node with
  | .sequence _ items => nameItems names items
  | node => node.pairs?.bind (namePairs names)

/- Read a field, or take its default. -/
def fieldOr
    {α : Type}
    (fields : List (String × Node))
    (name : String)
    (read : Node → Option α)
    (fallback : α) : Option α :=
  match fields.lookup name with
  | some node => read node
  | none => some fallback

/- The values of pairs, whose keys are scalars. -/
def textPairs? :
    List (Node × Node) → Option (List (String × Value))
| [] => some []
| (key, node) :: rest => do
    let name ← key.text?
    let value ← Value.ofNode? node
    return (name, value) :: (← textPairs? rest)

/- The map of a mapping, where later pairs win. -/
def Node.dictionary?
    (node : Node) : Option (Dictionary Value) := do
  return Dictionary.ofList (← textPairs? (← node.pairs?))

/- The pairs of a mapping, whose keys differ. -/
def Node.valuePairs?
    (node : Node) : Option (List (Value × Value)) := do
  let pairs ← Value.ofPairs? (← node.pairs?)
  if Value.keysDiffer pairs then return pairs else none

mutual

/- Whether a tag of the document occurs in a value. -/
def Value.hasTag : Value → Bool
| .sequence items => hasTagItems items
| .mapping pairs => hasTagPairs pairs
| .tagged _ _ => true
| _ => false

/- Whether a tag of the document occurs in a list. -/
def Value.hasTagItems : List Value → Bool
| [] => false
| v :: vs => hasTag v || hasTagItems vs

/- Whether a tag of the document occurs in pairs. -/
def Value.hasTagPairs : List (Value × Value) → Bool
| [] => false
| (k, v) :: rest => hasTag k || hasTag v || hasTagPairs rest

end

end Yaml

------------------------------------------------------------
-- Reading
------------------------------------------------------------

/- The filter that a value holds. -/
def FilterText.ofValue? :
    Yaml.Value → Option FilterText
| .string text => some (.line text)
| .sequence values =>
    if Yaml.Value.hasTagItems values then none
    else some (.tokens values)
| _ => none

/- The filter that a node holds. -/
def FilterText.ofNode?
    (node : Yaml.Node) : Option FilterText :=
  (Yaml.Value.ofNode? node).bind ofValue?

/- The names of the fields of a rule, in order. -/
def RuleText.fieldNames : List String :=
  ["name", "filter", "action", "parameters"]

/- The rule that a node holds. -/
def RuleText.ofNode? (node : Yaml.Node) : Option RuleText := do
  let fields ← node.record? fieldNames
  return {
    name :=
      ← Yaml.fieldOr fields "name"
        (Yaml.Node.optional? Yaml.Node.text?) none
    filter :=
      ← Yaml.fieldOr fields "filter"
        (Yaml.Node.optional? FilterText.ofNode?) none
    action := ← (← fields.lookup "action").text?
    parameters :=
      ← Yaml.fieldOr fields "parameters"
        Yaml.Node.dictionary? Dictionary.empty }

/- The rules that a node holds. -/
def RuleText.listOfNode?
    (node : Yaml.Node) : Option (List RuleText) := do
  (← node.items?).mapM ofNode?

namespace Document

/- The names of the fields of a policy, in order. -/
def fieldNames : List String :=
  ["fileclasses", "name", "filter", "action",
    "parameters", "rules"]

/- The action of a policy that asks for none. -/
def defaultAction : String :=
  "common:noop"

/- The policy that a node holds. -/
def ofNode? (node : Yaml.Node) : Option Document := do
  let fields ← node.record? fieldNames
  return {
    classes :=
      ← Yaml.fieldOr fields "fileclasses"
        Yaml.Node.valuePairs? []
    name := ← (← fields.lookup "name").text?
    filter :=
      ← Yaml.fieldOr fields "filter"
        (Yaml.Node.optional? FilterText.ofNode?) none
    action :=
      ← Yaml.fieldOr fields "action" Yaml.Node.text?
        defaultAction
    parameters :=
      ← Yaml.fieldOr fields "parameters"
        Yaml.Node.dictionary? Dictionary.empty
    rules :=
      ← Yaml.fieldOr fields "rules" RuleText.listOfNode?
        [] }

/- The policy that a text holds. -/
def ofText? (text : String) : Option Document :=
  (Yaml.nodeOf? text).bind ofNode?

end Document

end TreeKeeper
