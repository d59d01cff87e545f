import TreeKeeper.Search.Action
import TreeKeeper.Store.Event

/-
  Searches: the stores that are searched one after the other,
  and what surrounds them.  Output goes to the sink or to a
  file that is open, where it is gathered before it is added.

  Key definitions include:
    * `OpenFile`
    * `Search`
    * `Search.query`
    * `Search.writeMatches`
    * `Search.collect`
    * `Search.deleteMatches`
-/

------------------------------------------------------------
-- Searches
------------------------------------------------------------

namespace TreeKeeper

/- An open file, with text that is not yet added to it. -/
structure OpenFile where
  location : Location
  pending : String

namespace OpenFile

/- How many bytes are gathered before they are added. -/
def capacity : Nat :=
  8192

end OpenFile

/-
  The stores of a search, its surroundings, its reference
  time, how many entries could not be deleted, and what has
  been asked of the stores by their places in the list.
-/
structure Search (β : Type) where
  stores : List β
  out : Sink
  world : World
  now : Int64
  file : Option OpenFile := none
  failures : Nat := 0
  events : List (Event Nat) := []

namespace Search

variable {β κ : Type}

/- Replace the world. -/
def withWorld
    (search : Search β)
    (world : World) : Search β :=
  { search with world := world }

/- Add an event. -/
def record
    (search : Search β)
    (event : Event Nat) : Search β :=
  { search with events := search.events ++ [event] }

------------------------------------------------------------
-- Output
------------------------------------------------------------

/- Add a text to the file at a location. -/
def appendTo
    (search : Search β)
    (location : Location)
    (text : String) : Search β :=
  search.withWorld
    (search.world.withTree
      (search.world.tree.appendText location text))

/-
  Gather a text for a file.  What does not fit into the
  gathered text any more is added to the file.
-/
def gather
    (search : Search β)
    (file : OpenFile)
    (text : String) : Search β :=
  let size := text.utf8ByteSize
  let (search, pending) :=
    if OpenFile.capacity < file.pending.utf8ByteSize + size then
      (search.appendTo file.location file.pending, "")
    else (search, file.pending)
  if OpenFile.capacity ≤ size then
    { search.appendTo file.location text with
      file := some { file with pending := pending } }
  else
    { search with
      file := some { file with pending := pending ++ text } }

/- Write a text to the open file or to the sink. -/
def put
    (search : Search β)
    (text : String) : Bool × Search β :=
  match search.file with
  | some file => (true, search.gather file text)
  | none =>
      let (isComplete, out) := search.out.write text
      (isComplete, { search with out := out })

/- Write texts until one does not fit. -/
def putAll
    (search : Search β) :
    List String → Option SearchFault × Search β
| [] => (none, search)
| text :: rest =>
    match search.put text with
    | (true, search) => search.putAll rest
    | (false, search) => (some (.output .full), search)

/- Open the file at a path, which is empty then. -/
def openFile
    (search : Search β)
    (path : String) : Option SearchFault × Search β :=
  match search.world.tree.createFile search.world.directory
      path with
  | .error fault => (some (.output (.file fault)), search)
  | .ok (location, tree) =>
      (none,
        { search with
          world := search.world.withTree tree
          file := some ⟨location, ""⟩ })

/- Add what is gathered to the open file and close it. -/
def closeFile (search : Search β) : Search β :=
  match search.file with
  | some file =>
      { search.appendTo file.location file.pending with
        file := none }
  | none => search

------------------------------------------------------------
-- Matches
------------------------------------------------------------

/- Ask the store at a place for its matches. -/
def query
    [Store β κ]
    (search : Search β)
    (place : Nat)
    (store : β)
    (filter : Option Filter)
    (options : QueryOptions) :
    Except StoreFault κ × Search β :=
  let (result, world) :=
    Store.query store filter options {} search.world
  (result,
    (search.withWorld world).record
      (.called place (.query filter options)
        (succeeded result)))

/- Write an entry, unless a number in it overflows. -/
def putEntry
    (search : Search β)
    (rendering : Rendering)
    (entry : Entry) : Option SearchFault × Search β :=
  match rendering.texts? search.now entry with
  | some texts => search.putAll texts
  | none => (some .overflow, search)

/- Write matches until the cursor ends, with a step limit. -/
def writeFrom
    [Store β κ]
    (rendering : Rendering) :
    Nat → κ → Search β → Option SearchFault × Search β
| 0, _, search => (none, search)
| steps + 1, cursor, search =>
    match Store.fetch β cursor search.world with
    | (.finished, _, world) => (none, search.withWorld world)
    | (.failed fault, _, world) =>
        (some (.store fault), search.withWorld world)
    | (.again, cursor, world) =>
        writeFrom rendering steps cursor
          (search.withWorld world)
    | (.entry entry, cursor, world) =>
        match (search.withWorld world).putEntry rendering
            entry with
        | (some fault, search) => (some fault, search)
        | (none, search) =>
            writeFrom rendering steps cursor search

/- Write the matches of stores, one after the other. -/
def writeMatches
    [Store β κ]
    (filter : Option Filter)
    (options : QueryOptions)
    (rendering : Rendering) :
    List (β × Nat) → Search β →
      Option SearchFault × Search β
| [], search => (none, search)
| (store, place) :: rest, search =>
    match search.query place store filter options with
    | (.error fault, search) => (some (.store fault), search)
    | (.ok cursor, search) =>
        match writeFrom rendering
            (Store.bound β cursor search.world + 1) cursor
            search with
        | (some fault, search) => (some fault, search)
        | (none, search) =>
            writeMatches filter options rendering rest search

/- Fetch all matches of a cursor, with a step limit. -/
def collectFrom
    [Store β κ] :
    Nat → κ → Search β →
      Except StoreFault (List Entry) × Search β
| 0, _, search => (.ok [], search)
| steps + 1, cursor, search =>
    match Store.fetch β cursor search.world with
    | (.finished, _, world) =>
        (.ok [], search.withWorld world)
    | (.failed fault, _, world) =>
        (.error fault, search.withWorld world)
    | (.again, cursor, world) =>
        collectFrom steps cursor (search.withWorld world)
    | (.entry entry, cursor, world) =>
        let (result, search) :=
          collectFrom steps cursor (search.withWorld world)
        (result.map (entry :: ·), search)

/- All matches of the store at a place. -/
def collect
    [Store β κ]
    (search : Search β)
    (place : Nat)
    (store : β)
    (filter : Option Filter)
    (options : QueryOptions) :
    Except StoreFault (List Entry) × Search β :=
  match search.query place store filter options with
  | (.error fault, search) => (.error fault, search)
  | (.ok cursor, search) =>
      collectFrom (Store.bound β cursor search.world + 1)
        cursor search

------------------------------------------------------------
-- Counting And Looking For Matches
------------------------------------------------------------

/- The number of matches in stores. -/
def countMatches
    [Store β κ]
    (filter : Option Filter)
    (options : QueryOptions) :
    List (β × Nat) → Search β →
      Except SearchFault Nat × Search β
| [], search => (.ok 0, search)
| (store, place) :: rest, search =>
    match search.collect place store filter options with
    | (.error fault, search) => (.error (.store fault), search)
    | (.ok entries, search) =>
        let (result, search) :=
          countMatches filter options rest search
        (result.map (entries.length + ·), search)

/- Whether one of the stores has a match. -/
def hasMatch
    [Store β κ]
    (filter : Option Filter)
    (options : QueryOptions) :
    List (β × Nat) → Search β →
      Except SearchFault Bool × Search β
| [], search => (.ok false, search)
| (store, place) :: rest, search =>
    match search.collect place store filter options with
    | (.error fault, search) => (.error (.store fault), search)
    | (.ok [], search) =>
        hasMatch filter options rest search
    | (.ok (_ :: _), search) => (.ok true, search)

------------------------------------------------------------
-- Deleting
------------------------------------------------------------

/- Remove an entry from the store at a place. -/
def removeEntry
    [Store β κ]
    (search : Search β)
    (place : Nat)
    (store : β)
    (entry : Entry) : β × Search β :=
  let (result, store, world) :=
    Store.remove store entry search.world
  let search :=
    { search with
      world := world
      stores := search.stores.set place store }.record
      (.called place (.remove entry) (succeeded result))
  match result with
  | .ok () => (store, search)
  | .error fault =>
      (store,
        { search with
          failures := search.failures + 1
          world :=
            search.world.error
              ("cannot delete '" ++ entry.path ++ "': " ++
                fault.message) })

/- Remove entries, but never the root of a store. -/
def removeEntries
    [Store β κ]
    (place : Nat) :
    β → List Entry → Search β → Search β
| _, [], search => search
| store, entry :: rest, search =>
    if entry.path = "/" then
      removeEntries place store rest search
    else
      let (store, search) :=
        search.removeEntry place store entry
      removeEntries place store rest search

/- Entries from the deepest to the highest ones. -/
def deepestFirst (entries : List Entry) : List Entry :=
  entries.mergeSort fun a b => b.depth ≤ a.depth

/- Delete the matches of stores, one after the other. -/
def deleteMatches
    [Store β κ]
    (filter : Option Filter)
    (options : QueryOptions) :
    List (β × Nat) → Search β →
      Option SearchFault × Search β
| [], search => (none, search)
| (store, place) :: rest, search =>
    match search.collect place store filter options with
    | (.error fault, search) => (some (.store fault), search)
    | (.ok entries, search) =>
        deleteMatches filter options rest
          (removeEntries place store (deepestFirst entries)
            search)

------------------------------------------------------------
-- Flushing
------------------------------------------------------------

/- Flush the output. -/
def flushOutput (search : Search β) : Bool × Search β :=
  let (isComplete, out) := search.out.flush
  (isComplete, { search with out := out })

/- Flush stores until one of them fails. -/
def flush
    [Store β κ] :
    List (β × Nat) → Search β →
      Option StoreFault × Search β
| [], search => (none, search)
| (store, place) :: rest, search =>
    let (result, store, world) :=
      Store.flush store search.world
    let search :=
      { search with
        world := world
        stores := search.stores.set place store }.record
        (.called place .flush (succeeded result))
    match result with
    | .error fault => (some fault, search)
    | .ok () => flush rest search

end Search

end TreeKeeper
