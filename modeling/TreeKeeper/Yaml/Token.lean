/-
  The tokens of a YAML text: markers of documents and
  collections, and the parts of nodes.

  Key definitions include:
    * `Yaml.TagText`
    * `Yaml.Token`
-/

------------------------------------------------------------
-- Tokens
------------------------------------------------------------

namespace TreeKeeper

namespace Yaml

/- A tag as it is written: a handle, and what follows it. -/
structure TagText where
  handle : List Char
  suffix : List Char
deriving DecidableEq

/- One token of a text. -/
inductive Token where
| versionDirective (major minor : Nat)
| tagDirective (handle tagStart : List Char)
| documentStart
| documentEnd
| blockSequenceStart
| blockMappingStart
| blockEnd
| flowSequenceStart
| flowSequenceEnd
| flowMappingStart
| flowMappingEnd
| blockEntry
| flowEntry
| key
| value
| alias (name : List Char)
| anchor (name : List Char)
| tag (text : TagText)
| scalar (isPlain : Bool) (text : List Char)
deriving DecidableEq

end Yaml

end TreeKeeper
