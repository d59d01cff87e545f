import TreeKeeper.Yaml.Scanner

/-
  The tree of nodes of a YAML document.  An alias stands for
  the node that its anchor names, so that the same node may
  occur in several places of the tree.

  Key definitions include:
    * `Yaml.Node`
    * `Yaml.Composed`
    * `Yaml.readNode`
    * `Yaml.nodeOf?`
-/

------------------------------------------------------------
-- Nodes
------------------------------------------------------------

namespace TreeKeeper

namespace Yaml

/- A node of a document, with the tag it has if any. -/
inductive Node where
| scalar (tag : Option String) (isPlain : Bool) (text : String)
| sequence (tag : Option String) (items : List Node)
| mapping (tag : Option String) (pairs : List (Node × Node))

/- The node that is left out. -/
def Node.empty : Node :=
  .scalar none true ""

/-
  A node with the number of collections it nests and the
  number of aliases that are followed to read all of it.
-/
structure Composed where
  node : Node
  depth : Nat := 0
  aliases : Nat := 0

/- A name for a node, which is missing until it is read. -/
structure Anchor where
  name : List Char
  number : Nat
  node : Option Composed := none

/-
  The tokens left, the anchors so far with the latest one
  first, the handles of tags, and the number of nodes and
  ends of collections so far.
-/
structure Composer where
  tokens : List Token
  anchors : List Anchor := []
  handles : List (List Char × List Char) := []
  events : Nat := 0

/- Steps that read tokens and may fail. -/
abbrev Composing := StateT Composer Option

------------------------------------------------------------
-- Steps
------------------------------------------------------------

namespace Composing

/- Give up. -/
def refuse {α : Type} : Composing α :=
  fun _ => none

/- The next token. -/
def peek : Composing (Option Token) := do
  return (← get).tokens.head?

/- Step over the next token. -/
def advance : Composing Unit :=
  modify fun c => { c with tokens := c.tokens.tail }

/- Step over a given token, if it is the next one. -/
def accept (token : Token) : Composing Bool := do
  if (← peek) = some token then
    advance
    return true
  else return false

/- Count a node or the end of a collection. -/
def countEvent : Composing Unit :=
  modify fun c => { c with events := c.events + 1 }

/- The tag that a handle and a suffix stand for. -/
def resolveTag (text : TagText) : Composing String := do
  if text.handle.isEmpty then
    return String.ofList text.suffix
  else
    match (← get).handles.lookup text.handle with
    | some tagStart =>
        return String.ofList (tagStart ++ text.suffix)
    | none => refuse

/- Read an anchor, if there is one. -/
def readAnchor : Composing (Option (List Char)) := do
  match ← peek with
  | some (.anchor name) =>
      advance
      return some name
  | _ => return none

/- Read a tag, if there is one. -/
def readTag : Composing (Option String) := do
  match ← peek with
  | some (.tag text) =>
      advance
      some <$> resolveTag text
  | _ => return none

/-
  Read the anchor and the tag of a node, in any order.  The
  result gives the number of the anchor.
-/
def readProperties :
    Composing (Option Nat × Option String) := do
  let before ← readTag
  let anchor ← readAnchor
  let tag ←
    match before with
    | some tag => pure (some tag)
    | none => readTag
  match anchor with
  | none => return (none, tag)
  | some name =>
      let number := (← get).events
      modify fun c => {
        c with
        anchors :=
          { name := name, number := number } :: c.anchors }
      return (some number, tag)

/- Give the node of an anchor that has been read. -/
def nameNode
    (number : Option Nat)
    (composed : Composed) : Composing Composed := do
  match number with
  | none => pure ()
  | some n =>
      modify fun c => {
        c with
        anchors := c.anchors.map fun a =>
          if a.number = n then
            { a with node := some composed }
          else a }
  return composed

/- The node that an alias stands for. -/
def followAlias (name : List Char) : Composing Composed := do
  countEvent
  match (← get).anchors.find? fun a => a.name == name with
  | some { node := some composed, .. } =>
      return {
        composed with aliases := composed.aliases + 1 }
  | _ => refuse

/- A node that is left out. -/
def emptyNode : Composing Composed := do
  countEvent
  return { node := Node.empty }

end Composing

------------------------------------------------------------
-- Collections
------------------------------------------------------------

/- The sum of numbers. -/
def total (numbers : List Nat) : Nat :=
  numbers.foldl (· + ·) 0

/- The largest of numbers, or zero. -/
def largest (numbers : List Nat) : Nat :=
  numbers.foldl Nat.max 0

/- The sequence of nodes. -/
def sequenceOf
    (tag : Option String)
    (items : List Composed) : Composed where
  node := .sequence tag (items.map Composed.node)
  depth := largest (items.map Composed.depth) + 1
  aliases := total (items.map Composed.aliases)

/- The mapping of pairs of nodes. -/
def mappingOf
    (tag : Option String)
    (pairs : List (Composed × Composed)) : Composed where
  node :=
    .mapping tag (pairs.map fun p => (p.1.node, p.2.node))
  depth :=
    largest (pairs.map fun p => p.1.depth.max p.2.depth) + 1
  aliases :=
    total (pairs.map fun p => p.1.aliases + p.2.aliases)

/- Whether the next token is one of the given ones. -/
def isNext (tokens : List Token) : Composing Bool := do
  match ← Composing.peek with
  | some token => return tokens.contains token
  | none => return true

open Composing in
/-
  The counter exceeds four times the number of tokens left,
  so it does not run out.
-/
mutual

/-
  Read a node.  Blocks may begin only in a block, and items
  without a block of their own only behind a key or a value.
-/
def readNode
    (inBlock mayIndentless : Bool) :
    Nat → Composing Composed
| 0 => refuse
| fuel + 1 => do
    match ← peek with
    | some (.alias name) =>
        advance
        followAlias name
    | _ =>
        let (number, tag) ← readProperties
        let composed ←
          readContent inBlock mayIndentless
            (number.isSome || tag.isSome) tag fuel
        nameNode number composed

/-
  Read the content of a node.  It may be left out behind an
  anchor or a tag.
-/
def readContent
    (inBlock mayIndentless mayOmit : Bool)
    (tag : Option String) :
    Nat → Composing Composed
| 0 => refuse
| fuel + 1 => do
    countEvent
    match ← peek with
    | some .blockEntry =>
        if mayIndentless then
          sequenceOf tag <$> readIndentless fuel
        else if mayOmit then
          return { node := .scalar tag true "" }
        else refuse
    | some (.scalar isPlain text) =>
        advance
        return {
          node := .scalar tag isPlain (String.ofList text) }
    | some .flowSequenceStart =>
        advance
        sequenceOf tag <$> readFlowItems true fuel
    | some .flowMappingStart =>
        advance
        mappingOf tag <$> readFlowPairs true fuel
    | some .blockSequenceStart =>
        if inBlock then
          advance
          sequenceOf tag <$> readBlockItems fuel
        else if mayOmit then
          return { node := .scalar tag true "" }
        else refuse
    | some .blockMappingStart =>
        if inBlock then
          advance
          mappingOf tag <$> readBlockPairs fuel
        else if mayOmit then
          return { node := .scalar tag true "" }
        else refuse
    | _ =>
        if mayOmit then
          return { node := .scalar tag true "" }
        else refuse

/- Read the items of a block up to its end. -/
def readBlockItems : Nat → Composing (List Composed)
| 0 => refuse
| fuel + 1 => do
    if ← accept .blockEnd then
      countEvent
      return []
    else if ← accept .blockEntry then
      let item ←
        if ← isNext [.blockEntry, .blockEnd] then emptyNode
        else readNode true false fuel
      return item :: (← readBlockItems fuel)
    else refuse

/- Read items without a block of their own. -/
def readIndentless : Nat → Composing (List Composed)
| 0 => refuse
| fuel + 1 => do
    if ← accept .blockEntry then
      let item ←
        if ← isNext [.blockEntry, .key, .value, .blockEnd]
        then emptyNode
        else readNode true false fuel
      return item :: (← readIndentless fuel)
    else
      countEvent
      return []

/- Read the pairs of a block up to its end. -/
def readBlockPairs :
    Nat → Composing (List (Composed × Composed))
| 0 => refuse
| fuel + 1 => do
    if ← accept .blockEnd then
      countEvent
      return []
    else if ← accept .key then
      let key ←
        if ← isNext [.key, .value, .blockEnd] then emptyNode
        else readNode true true fuel
      let value ←
        if ← accept .value then
          if ← isNext [.key, .value, .blockEnd] then
            emptyNode
          else readNode true true fuel
        else emptyNode
      return (key, value) :: (← readBlockPairs fuel)
    else refuse

/- Read the items of a flow sequence up to its bracket. -/
def readFlowItems
    (isFirst : Bool) :
    Nat → Composing (List Composed)
| 0 => refuse
| fuel + 1 => do
    if ← accept .flowSequenceEnd then
      countEvent
      return []
    else if isFirst || (← accept .flowEntry) then
      if ← accept .flowSequenceEnd then
        countEvent
        return []
      else if ← accept .key then
        let item ← readSinglePair fuel
        return item :: (← readFlowItems false fuel)
      else
        let item ← readNode false false fuel
        return item :: (← readFlowItems false fuel)
    else refuse

/-
  Read a pair that is an item of a flow sequence.  A key that
  is left out takes the token behind it with it.
-/
def readSinglePair : Nat → Composing Composed
| 0 => refuse
| fuel + 1 => do
    countEvent
    let key ←
      if ← isNext [.value, .flowEntry, .flowSequenceEnd] then
        advance
        emptyNode
      else readNode false false fuel
    let value ←
      if ← accept .value then
        if ← isNext [.flowEntry, .flowSequenceEnd] then
          emptyNode
        else readNode false false fuel
      else emptyNode
    countEvent
    return mappingOf none [(key, value)]

/- Read the pairs of a flow mapping up to its brace. -/
def readFlowPairs
    (isFirst : Bool) :
    Nat → Composing (List (Composed × Composed))
| 0 => refuse
| fuel + 1 => do
    if ← accept .flowMappingEnd then
      countEvent
      return []
    else if isFirst || (← accept .flowEntry) then
      if ← accept .flowMappingEnd then
        countEvent
        return []
      else if ← accept .key then
        let key ←
          if ← isNext [.value, .flowEntry, .flowMappingEnd]
          then emptyNode
          else readNode false false fuel
        let value ←
          if ← accept .value then
            if ← isNext [.flowEntry, .flowMappingEnd] then
              emptyNode
            else readNode false false fuel
          else emptyNode
        return (key, value) :: (← readFlowPairs false fuel)
      else
        let key ← readNode false false fuel
        let value ← emptyNode
        return (key, value) :: (← readFlowPairs false fuel)
    else refuse

end

------------------------------------------------------------
-- Documents
------------------------------------------------------------

/- What the directives of a document say. -/
structure Directives where
  hasVersion : Bool := false
  handles : List (List Char × List Char) := []

/- The handles that every document knows. -/
def standardHandles : List (List Char × List Char) := [
  ("!".toList, "!".toList),
  ("!!".toList, "tag:yaml.org,2002:".toList)]

/- Take the directives in front of a document. -/
def takeDirectives :
    Directives → List Token → Option (Directives × List Token)
| known, .versionDirective major minor :: rest =>
    if known.hasVersion || major ≠ 1 ||
        (minor ≠ 1 && minor ≠ 2) then none
    else
      takeDirectives { known with hasVersion := true } rest
| known, .tagDirective handle tagStart :: rest =>
    if (known.handles.lookup handle).isSome then none
    else
      takeDirectives
        { known with
          handles := (handle, tagStart) :: known.handles }
        rest
| known, rest => some (known, rest)

/-
  The tokens of the only document, with the handles it may
  use.  Directives ask for a marker behind them.
-/
def documentTokens
    (tokens : List Token) : Option (Directives × List Token) :=
  match tokens with
  | [] => none
  | .versionDirective .. :: _
  | .tagDirective .. :: _
  | .documentStart :: _ =>
      match takeDirectives {} tokens with
      | some (directives, .documentStart :: rest) =>
          some (directives, rest)
      | _ => none
  | rest => some ({}, rest)

/- Read the node of a document, which may be left out. -/
def readRoot
    (isExplicit : Bool)
    (fuel : Nat) : Composing Composed := do
  match ← Composing.peek with
  | none => Composing.emptyNode
  | some token =>
      let isEmpty :=
        match token with
        | .documentStart => true
        | .documentEnd => true
        | .versionDirective .. => true
        | .tagDirective .. => true
        | _ => false
      if isExplicit && isEmpty then Composing.emptyNode
      else readNode true false fuel

/- The number of collections that may lie in each other. -/
def depthLimit : Nat :=
  128

/- The number of aliases for each node that may be followed. -/
def aliasLimit : Nat :=
  100

/-
  The node of the only document of a text.  Documents that
  nest too deeply or repeat too much are refused.
-/
def nodeOf? (text : String) : Option Node := do
  let tokens ← tokensOf? text
  let (directives, rest) ← documentTokens tokens
  let (composed, composer) ←
    (readRoot (rest.length < tokens.length)
      (4 * tokens.length + 4)).run {
        tokens := rest
        handles := directives.handles ++ standardHandles }
  let isWhole := composer.tokens.all (· == .documentEnd)
  if isWhole && composed.depth ≤ depthLimit &&
      composed.aliases ≤ aliasLimit * composer.events then
    return composed.node
  else none

end Yaml

end TreeKeeper
