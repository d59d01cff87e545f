import TreeKeeper.Predicate.Builtin
import TreeKeeper.Search.Basic
import TreeKeeper.Store.Uri

/-
  Running searches.  Arguments name stores first and hold an
  expression with actions behind them.  Each action concerns
  the entries that match the expression in front of it, and
  what follows a disjunction concerns only entries that have
  not matched so far.

  Key definitions include:
    * `Search.splitPlaces`
    * `Search.execute`
    * `Search.Scope`
    * `Search.runFrom`
    * `Search.finish`
    * `Search.run`
-/

------------------------------------------------------------
-- Places
------------------------------------------------------------

namespace TreeKeeper

namespace Search

/- Whether an argument names a place. -/
def namesPlace (arg : String) : Bool :=
  match Registry.builtin.classify arg with
  | .place => true
  | _ => false

/- The arguments in front that name places. -/
def placeArgs (args : List String) : List String :=
  args.takeWhile namesPlace

/- Read places until one is malformed. -/
def readPlaces :
    List String → Except SearchFault (List Uri)
| [] => .ok []
| arg :: rest =>
    match Uri.ofText arg with
    | .error fault => .error (.store (.badUri arg fault))
    | .ok uri => (readPlaces rest).map (uri :: ·)

/- The place that is searched if none is named. -/
def defaultPlace : Uri :=
  .directory "."

/- The places that arguments name, and the expression. -/
def splitPlaces
    (args : List String) :
    Except SearchFault (List Uri × List String) :=
  let named := placeArgs args
  (readPlaces named).map fun uris =>
    (if uris.isEmpty then [defaultPlace] else uris,
      args.drop named.length)

------------------------------------------------------------
-- Executing Actions
------------------------------------------------------------

variable {β κ : Type}

/- The line that reports the number of matches. -/
def countLine (count : Nat) : String :=
  toString count ++ " matching entries\n"

/- Write the number of matches. -/
def reportCount
    (count : Nat)
    (search : Search β) : Except SearchFault Bool × Search β :=
  match search.putAll [countLine count] with
  | (some fault, search) => (.error fault, search)
  | (none, search) => (.ok false, search)

/- Go on, unless there is a fault. -/
def goOn
    (result : Option SearchFault × Search β) :
    Except SearchFault Bool × Search β :=
  match result with
  | (some fault, search) => (.error fault, search)
  | (none, search) => (.ok false, search)

/- Execute a write to the output or to a file. -/
def executeWrite
    [Store β κ]
    (filter : Option Filter)
    (options : QueryOptions)
    (rendering : Rendering)
    (file : Option String)
    (search : Search β) :
    Option SearchFault × Search β :=
  match file with
  | none =>
      writeMatches filter options rendering
        search.stores.zipIdx search
  | some path =>
      match search.openFile path with
      | (some fault, search) => (some fault, search)
      | (none, search) =>
          let (fault, search) :=
            writeMatches filter options rendering
              search.stores.zipIdx search
          (fault, search.closeFile)

/-
  Execute an action on the entries that a filter accepts.
  The result tells whether the search ends there.
-/
def execute
    [Store β κ]
    (filter : Option Filter)
    (sorts : List SortKey)
    (action : SearchAction)
    (search : Search β) : Except SearchFault Bool × Search β :=
  let options : QueryOptions := {
    one := action.isQuit
    sorts := sorts }
  match action with
  | .write file rendering =>
      goOn
        (executeWrite filter options rendering file search)
  | .count =>
      match countMatches filter options
          search.stores.zipIdx search with
      | (.error fault, search) => (.error fault, search)
      | (.ok count, search) => reportCount count search
  | .delete =>
      goOn
        (deleteMatches filter options search.stores.zipIdx
          search)
  | .quit =>
      hasMatch filter options search.stores.zipIdx search

------------------------------------------------------------
-- Expressions With Actions
------------------------------------------------------------

/-
  What an action concerns: entries that no group in front
  matched, the expressions of its own group, the sort keys so
  far, and whether any action was executed.
-/
structure Scope where
  outer : Option Filter := none
  group : Option Filter := none
  sorts : List SortKey := []
  acted : Bool := false

namespace Scope

/- The filter of an action in a scope. -/
def filter (scope : Scope) : Option Filter :=
  Filter.both scope.outer scope.group

/- Add the expression in front of an action. -/
def extend
    (scope : Scope)
    (segment : Segment) : Scope :=
  { scope with
    group := Filter.both scope.group segment.filter
    sorts := scope.sorts ++ segment.sorts }

/-
  Go on to the entries that the group did not match.  There
  are none if it matched everything.
-/
def next? (scope : Scope) : Option Scope :=
  match scope.group with
  | none => none
  | some group =>
      some { scope with
        outer := Filter.both scope.outer (some (.not group))
        group := none }

end Scope

/- What comes behind an action. -/
inductive Sequel where
| finished
| failed (fault : SearchFault)
| more (scope : Scope) (args : List String)

/- What comes behind an action in a scope. -/
def sequel
    (registry : Registry)
    (scope : Scope)
    (args : List String) : Sequel :=
  match args, Segment.resume? registry args with
  | word :: _, some (true, []) =>
      .failed (.expression (.missingOperand word))
  | _, some (true, rest) =>
      match scope.next? with
      | none => .finished
      | some scope => .more scope rest
  | _, some (false, []) => .finished
  | _, some (false, rest) => .more scope rest
  | [], none => .finished
  | args, none => .more scope args

/- Print the matches if no action was executed. -/
def conclude
    [Store β κ]
    (scope : Scope)
    (search : Search β) : Option SearchFault × Search β :=
  if scope.acted then (none, search)
  else
    match execute scope.filter scope.sorts .print search with
    | (.error fault, search) => (some fault, search)
    | (.ok _, search) => (none, search)

/-
  Read expressions and execute their actions one by one, with
  a limit on their number.
-/
def runFrom
    [Store β κ]
    (registry : Registry) :
    Nat → Scope → List String → Search β →
      Option SearchFault × Search β
| 0, _, _, search => (none, search)
| steps + 1, scope, args, search =>
    match Segment.read registry search.now args with
    | .error fault => (some (.expression fault), search)
    | .ok segment =>
        let scope := scope.extend segment
        match segment.action with
        | none => conclude scope search
        | some request =>
            match SearchAction.ofRequest request with
            | .error fault => (some fault, search)
            | .ok action =>
                match execute scope.filter scope.sorts action
                    search with
                | (.error fault, search) =>
                    (some fault, search)
                | (.ok true, search) => (none, search)
                | (.ok false, search) =>
                    match sequel registry
                        { scope with acted := true }
                        segment.rest with
                    | .finished => (none, search)
                    | .failed fault => (some fault, search)
                    | .more scope rest =>
                        runFrom registry steps scope rest
                          search

/- Flush the stores and report what could not be deleted. -/
def finishStores
    [Store β κ]
    (search : Search β) : Option SearchFault × Search β :=
  match flush search.stores.zipIdx search with
  | (some fault, search) => (some (.store fault), search)
  | (none, search) =>
      if 0 < search.failures then
        (some (.failures search.failures), search)
      else
        (none,
          search.withWorld
            (search.world.info "find completed"))

/-
  Flush the output, and then the stores.  They are left as
  they are if the output cannot be flushed.
-/
def finish
    [Store β κ]
    (search : Search β) : Option SearchFault × Search β :=
  match search.flushOutput with
  | (true, search) => search.finishStores
  | (false, search) => (some (.output .full), search)

/- The predicates that the stores of a search know. -/
def registry
    [Store β κ]
    (stores : List β) : Registry :=
  stores.foldl
    (fun registry store =>
      registry.registerAll (Store.predicates store))
    Registry.builtin

/- Run a search for an expression with actions. -/
def run
    [Store β κ]
    (args : List String)
    (search : Search β) : Option SearchFault × Search β :=
  match runFrom (registry search.stores) (args.length + 1)
      {} args search with
  | (some fault, search) => (some fault, search)
  | (none, search) => search.finish

end Search

end TreeKeeper
