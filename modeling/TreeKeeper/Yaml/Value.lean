import TreeKeeper.Yaml.Node
import TreeKeeper.Yaml.Scalar

/-
  The values of YAML nodes.  Plain scalars mean what they
  look like, quoted ones are texts, and some tags decide it
  themselves.  The keys of a mapping differ.

  Key definitions include:
    * `Yaml.Value`
    * `Yaml.Value.same`
    * `Yaml.Value.ofNode?`
    * `Yaml.Value.scalarText?`
-/

------------------------------------------------------------
-- Values
------------------------------------------------------------

namespace TreeKeeper

namespace Yaml

/- The value of a node. -/
inductive Value where
| null
| bool (value : Bool)
| number (value : Number)
| string (text : String)
| sequence (items : List Value)
| mapping (pairs : List (Value × Value))
| tagged (tag : String) (value : Value)

namespace Value

mutual

/- Whether two values are equal. -/
def same : Value → Value → Bool
| null, null => true
| bool a, bool b => a == b
| number a, number b => a.same b
| string a, string b => a == b
| sequence xs, sequence ys => sameItems xs ys
| mapping ps, mapping qs =>
    ps.length == qs.length && samePairs ps qs
| tagged s v, tagged t w => s == t && same v w
| _, _ => false

/- Whether two lists hold equal values in order. -/
def sameItems : List Value → List Value → Bool
| [], [] => true
| v :: vs, w :: ws => same v w && sameItems vs ws
| _, _ => false

/- Whether every pair of a list equals one of another. -/
def samePairs :
    List (Value × Value) → List (Value × Value) → Bool
| [], _ => true
| (k, v) :: ps, qs =>
    (qs.any fun q => same k q.1 && same v q.2) &&
      samePairs ps qs

end

/- A plain scalar as a value. -/
def ofScalar : Scalar → Value
| .null => .null
| .bool b => .bool b
| .number n => .number n
| .string s => .string s

/- The text of a text, a number or a truth value. -/
def scalarText? : Value → Option String
| string s => some s
| number n => some n.text
| bool true => some "true"
| bool false => some "false"
| _ => none

------------------------------------------------------------
-- Tags
------------------------------------------------------------

/- The name behind the mark of a tag of the document. -/
def localTag? (tag : Option String) : Option String :=
  match tag.map String.toList with
  | some ('!' :: name) => some (String.ofList name)
  | _ => none

/- The name of a tag that every document knows. -/
def standardTag? (tag : String) : Option String :=
  (Text.stripBeginning "tag:yaml.org,2002:".toList
    tag.toList).map String.ofList

/- The value of a scalar, apart from tags of the document. -/
def scalarOf?
    (tag : Option String)
    (isPlain : Bool)
    (text : String) : Option Value :=
  match tag with
  | none =>
      if isPlain then
        (Scalar.resolve? text).map ofScalar
      else some (.string text)
  | some tag =>
      match standardTag? tag with
      | some "bool" => (bool? text).map .bool
      | some "int" =>
          match readInteger text.toList with
          | .fits n => some (.number (.integer n))
          | _ => none
      | some "float" =>
          (fraction? text.toList).map .number
      | some "null" =>
          if isNullWord text then some .null else none
      | _ => some (.string text)

/- Put a tag of the document around a value. -/
def withTag?
    (tag : Option String)
    (value : Value) : Option Value :=
  match localTag? tag with
  | none => some value
  | some "" => none
  | some name => some (.tagged name value)

------------------------------------------------------------
-- Reading Nodes
------------------------------------------------------------

/- Whether the keys of pairs differ from each other. -/
def keysDiffer : List (Value × Value) → Bool
| [] => true
| (key, _) :: rest =>
    !(rest.any fun p => key.same p.1) && keysDiffer rest

mutual

/- The value of a node. -/
def ofNode? : Node → Option Value
| .scalar tag isPlain text =>
    match localTag? tag with
    | none => scalarOf? tag isPlain text
    | some _ =>
        (scalarOf? none isPlain text).bind (withTag? tag)
| .sequence tag items =>
    (ofNodes? items).bind fun vs =>
      withTag? tag (.sequence vs)
| .mapping tag pairs =>
    (ofPairs? pairs).bind fun ps =>
      if keysDiffer ps then withTag? tag (.mapping ps)
      else none

/- The values of nodes. -/
def ofNodes? : List Node → Option (List Value)
| [] => some []
| node :: rest =>
    (ofNode? node).bind fun v =>
      (ofNodes? rest).map (v :: ·)

/- The values of pairs of nodes. -/
def ofPairs? :
    List (Node × Node) → Option (List (Value × Value))
| [] => some []
| (key, node) :: rest =>
    (ofNode? key).bind fun k =>
      (ofNode? node).bind fun v =>
        (ofPairs? rest).map ((k, v) :: ·)

end

end Value

end Yaml

end TreeKeeper
