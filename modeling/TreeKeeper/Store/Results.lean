import TreeKeeper.Entry.Order
import TreeKeeper.Store.Basic

/-
  The results of a query: entries are drawn from a source one
  by one, and those that the filter accepts are skipped,
  counted and handed out.  A sorted query draws everything
  first.

  Key definitions include:
    * `Source`
    * `Feed`
    * `Results`
    * `Results.start`
    * `Results.fetch`
-/

------------------------------------------------------------
-- Sources
------------------------------------------------------------

namespace TreeKeeper

/-
  Where entries come from.  Each step gives an entry or tells
  why one cannot be read, or ends the source.  The bound tells
  how many steps come before the end.
-/
class Source (σ : Type) where
  next :
    σ → World → Option (Except StoreFault Entry) × σ × World
  bound : σ → World → Nat

/- A source that reads a list. -/
abbrev Readings := List (Except StoreFault Entry)

namespace Readings

/- Take the first reading off a list. -/
def next
    (readings : Readings)
    (world : World) :
    Option (Except StoreFault Entry) × Readings × World :=
  match readings with
  | [] => (none, [], world)
  | reading :: rest => (some reading, rest, world)

end Readings

instance : Source Readings where
  next := Readings.next
  bound := fun readings _ => readings.length

/- Entries drawn step by step, or sorted beforehand. -/
inductive Feed (σ : Type) where
| drawn (source : σ)
| sorted (readings : Readings)

namespace Feed

variable {σ : Type} [Source σ]

/- One step of a feed. -/
def next
    (feed : Feed σ)
    (world : World) :
    Option (Except StoreFault Entry) × Feed σ × World :=
  match feed with
  | .drawn source =>
      let (reading, source, world) :=
        Source.next source world
      (reading, .drawn source, world)
  | .sorted readings =>
      let (reading, readings, world) :=
        Source.next readings world
      (reading, .sorted readings, world)

/- How many steps come before the end of a feed. -/
def bound (feed : Feed σ) (world : World) : Nat :=
  match feed with
  | .drawn source => Source.bound source world
  | .sorted readings => Source.bound readings world

end Feed

------------------------------------------------------------
-- Results
------------------------------------------------------------

/-
  The state of a query: where entries come from, the filter,
  how many matches are still skipped and returned at most,
  what is done about unreadable entries, the parts of entries
  that are asked for, and whether the end was reached.
-/
structure Results (σ : Type) where
  feed : Feed σ
  filter : Option Filter
  skip : Nat
  remaining : Option Nat
  skipErrors : Bool
  projection : Projection
  isDone : Bool := false

namespace Results

variable {σ : Type} [Source σ]

/- Log that an entry is left out because of a fault. -/
def warnSkipped
    (fault : StoreFault)
    (world : World) : World :=
  world.warn
    ("skipping unreadable entry: " ++ fault.message)

/-
  Draw entries up to the end or, unless they are skipped, the
  first fault, and keep those that the filter accepts.
-/
def collect
    (filter : Option Filter)
    (skipErrors : Bool) :
    Nat → σ → World →
      List Entry × Option StoreFault × World
| 0, _, world => ([], none, world)
| steps + 1, source, world =>
    match Source.next source world with
    | (none, _, world) => ([], none, world)
    | (some (.error fault), source, world) =>
        if skipErrors then
          collect filter skipErrors steps source
            (warnSkipped fault world)
        else ([], some fault, world)
    | (some (.ok entry), source, world) =>
        let (entries, fault, world) :=
          collect filter skipErrors steps source world
        if Filter.admits filter entry then
          (entry :: entries, fault, world)
        else (entries, fault, world)

/- The greatest number of entries that a query returns. -/
def limitOf (options : QueryOptions) : Option Nat :=
  if options.one then some ((options.limit.getD 1).min 1)
  else options.limit

/-
  Start a query on a source.  With sort keys the entries are
  collected and sorted, and a fault comes behind them.
-/
def start
    (source : σ)
    (filter : Option Filter)
    (options : QueryOptions)
    (projection : Projection)
    (world : World) : Results σ × World :=
  let results : Results σ := {
    feed := .drawn source
    filter := filter
    skip := options.skip
    remaining := limitOf options
    skipErrors := options.skipErrors
    projection := projection }
  if options.sorts.isEmpty then (results, world)
  else
    let (entries, fault, world) :=
      collect filter options.skipErrors
        (Source.bound source world + 1) source world
    let readings : Readings :=
      (Entry.sortBy options.sorts entries).map .ok ++
        fault.toList.map .error
    ({ results with
      feed := .sorted readings
      filter := none }, world)

/- Draw entries until one has to be handed out. -/
def advance :
    Nat → Results σ → World → Fetch × Results σ × World
| 0, results, world =>
    (.finished, { results with isDone := true }, world)
| steps + 1, results, world =>
    match results.feed.next world with
    | (none, feed, world) =>
        (.finished,
          { results with feed := feed, isDone := true },
          world)
    | (some (.error fault), feed, world) =>
        if results.skipErrors then
          advance steps { results with feed := feed }
            (warnSkipped fault world)
        else
          (.failed fault,
            { results with feed := feed, isDone := true },
            world)
    | (some (.ok entry), feed, world) =>
        if !Filter.admits results.filter entry then
          advance steps { results with feed := feed } world
        else if 0 < results.skip then
          advance steps
            { results with
              feed := feed
              skip := results.skip - 1 }
            world
        else
          (.entry (results.projection.apply entry),
            { results with
              feed := feed
              remaining := results.remaining.map (· - 1) },
            world)

/- How often the results may be asked before they end. -/
def bound
    (results : Results σ)
    (world : World) : Nat :=
  results.feed.bound world

/- The next entry, or the end of the results. -/
def fetch
    (results : Results σ)
    (world : World) : Fetch × Results σ × World :=
  if results.isDone || results.remaining == some 0 then
    (.finished, results, world)
  else
    advance (results.bound world + 1) results world

end Results

end TreeKeeper
