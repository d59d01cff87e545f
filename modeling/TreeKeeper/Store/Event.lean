import TreeKeeper.Entry.Record
import TreeKeeper.Filter.Printer
import TreeKeeper.Store.Basic

/-
  What happened while stores were used: the calls on them in
  order, the entries that they handed out, and the programs
  that were launched.

  Key definitions include:
    * `Call`
    * `Call.text`
    * `Event`
-/

------------------------------------------------------------
-- Calls And Events
------------------------------------------------------------

namespace TreeKeeper

/- What is asked of a store. -/
inductive Call where
| query (filter : Option Filter) (options : QueryOptions)
| fresh (entry : Entry) (answer : Option Entry)
| remove (entry : Entry)
| migrate (entry : Entry) (parameters : Dictionary String)
| flush

/- The name of a sort key, with a hyphen if it descends. -/
def SortKey.text (key : SortKey) : String :=
  if key.ascending then key.field.title
  else "-" ++ key.field.title

/- Texts as a list on one line. -/
def listText (texts : List String) : String :=
  (Json.array (texts.map fun t => .string (some t))).render

/- A call as a text on one line. -/
def Call.text : Call → String
| query filter options =>
    "filter " ++ (filter.map Filter.display).getD "*" ++
      " sort " ++ listText (options.sorts.map SortKey.text) ++
      " one " ++ (if options.one then "true" else "false")
| fresh entry _ => "get_fresh " ++ entry.path
| remove entry => "remove " ++ entry.path
| migrate entry parameters =>
    "migrate " ++ entry.path ++ " " ++
      (Json.ofDictionary parameters).render
| flush => "flush"

/-
  A call on the store at a place, with its success, an entry
  that was handed out, or a program that was launched for an
  entry, with whether it was started at all.
-/
inductive Event (ι : Type) where
| called (place : ι) (call : Call) (succeeded : Bool)
| fetched (entry : Entry)
| launched
    (entry : Entry)
    (words : List String)
    (isStarted : Bool)

/- Whether an operation succeeded. -/
def succeeded {ε α : Type} : Except ε α → Bool
| .ok _ => true
| .error _ => false

end TreeKeeper
