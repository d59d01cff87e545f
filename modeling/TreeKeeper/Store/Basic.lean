import TreeKeeper.Entry.Basic
import TreeKeeper.Filter.Meaning
import TreeKeeper.Predicate.Basic
import TreeKeeper.Store.Capabilities
import TreeKeeper.Store.Uri
import TreeKeeper.World

/-
  Stores: sources of entries and targets of actions.  A store
  answers queries with a cursor, reads single entries again,
  and removes or migrates them if it can.

  Key definitions include:
    * `StoreFault`
    * `QueryOptions`
    * `Projection`
    * `Fetch`
    * `Store`
-/

------------------------------------------------------------
-- Faults
------------------------------------------------------------

namespace TreeKeeper

/- Operations that a store may lack. -/
inductive StoreOperation where
| delete
| migrate
deriving DecidableEq

/- The name of an operation. -/
def StoreOperation.title : StoreOperation → String
| delete => "delete"
| migrate => "migrate"

/- Why an entry cannot be migrated. -/
inductive MigrationFault where
| noTarget
| noEntry (path : String)
deriving DecidableEq

/- The report of a fault of a migration. -/
def MigrationFault.message : MigrationFault → String
| noTarget => "missing 'target' parameter"
| noEntry path => "no entry at '" ++ path ++ "'"

/- Why an operation of a store fails. -/
inductive StoreFault where
| io (path : String) (fault : FileFault)
| badUri (text : String) (fault : Uri.Fault)
| snapshot (path : String) (line : Nat)
| outsideRoot (path : String)
| unsupported (store : String) (operation : StoreOperation)
| iteration (message : String)
| migration (fault : MigrationFault)
deriving DecidableEq

/- The report of a fault of a store. -/
def StoreFault.message : StoreFault → String
| io path fault =>
    "I/O error on '" ++ path ++ "': " ++ fault.message
| badUri text fault =>
    "invalid URI '" ++ text ++ "': " ++ fault.message
| snapshot path line =>
    "malformed snapshot '" ++ path ++ "' at line " ++
      toString line
| outsideRoot path =>
    "path '" ++ path ++ "' escapes the backend root"
| unsupported store operation =>
    "operation '" ++ operation.title ++
      "' is not supported by the " ++ store ++ " backend"
| iteration message => "iteration failed: " ++ message
| migration fault => "migration failed: " ++ fault.message

------------------------------------------------------------
-- Queries
------------------------------------------------------------

/-
  How a query is answered: how many entries are skipped and
  returned at most, whether unreadable ones are skipped,
  whether the first match is enough, whether actions are only
  reported, and the order.
-/
structure QueryOptions where
  skip : Nat := 0
  limit : Option Nat := none
  skipErrors : Bool := false
  one : Bool := false
  dryRun : Bool := false
  sorts : List SortKey := []

/- The parts of entries that are asked for. -/
structure Projection where
  xattrs : Bool := true
  symlink : Bool := true

/- Leave out the parts that are not asked for. -/
def Projection.apply
    (projection : Projection)
    (entry : Entry) : Entry :=
  { entry with
    symlink :=
      if projection.symlink then entry.symlink else none
    xattrs :=
      if projection.xattrs then entry.xattrs
      else Dictionary.empty }

/- What one step of a cursor yields. -/
inductive Fetch where
| entry (entry : Entry)
| finished
| again
| failed (fault : StoreFault)

------------------------------------------------------------
-- Stores
------------------------------------------------------------

/-
  The operations of stores of a type, with the cursors that
  answer their queries.  The bound tells how often a cursor
  may be asked before it yields nothing more.  Removing an
  entry that is already gone succeeds, and flushing keeps
  what has been changed.
-/
class Store (β : Type) (κ : outParam Type) where
  name : β → String
  capabilities : β → Capabilities
  predicates : β → List Predicate
  query :
    β → Option Filter → QueryOptions → Projection → World →
      Except StoreFault κ × World
  fetch : κ → World → Fetch × κ × World
  bound : κ → World → Nat
  fresh :
    β → Entry → World → Except StoreFault (Option Entry)
  remove :
    β → Entry → World → Except StoreFault Unit × β × World
  migrate :
    β → Entry → Dictionary String → World →
      Except StoreFault Unit × β × World
  flush : β → World → Except StoreFault Unit × β × World
  location? : β → Entry → Option String

------------------------------------------------------------
-- Stores Of Two Types
------------------------------------------------------------

/- Put the store of a changed state back into its type. -/
def mapStore
    {α β γ : Type}
    (f : α → β)
    (result : γ × α × World) : γ × β × World :=
  (result.1, f result.2.1, result.2.2)

/- Put the cursor of an answer into a larger type. -/
def mapCursor
    {α β ε : Type}
    (f : α → β)
    (result : Except ε α × World) :
    Except ε β × World :=
  (result.1.map f, result.2)

/- Stores that are of one type or of another one. -/
instance
    {β γ κ μ : Type}
    [Store β κ]
    [Store γ μ] : Store (β ⊕ γ) (κ ⊕ μ) where
  name := Sum.elim Store.name Store.name
  capabilities :=
    Sum.elim Store.capabilities Store.capabilities
  predicates := Sum.elim Store.predicates Store.predicates
  query := fun store filter options projection world =>
    match store with
    | .inl s =>
        mapCursor .inl
          (Store.query s filter options projection world)
    | .inr s =>
        mapCursor .inr
          (Store.query s filter options projection world)
  fetch := fun cursor world =>
    match cursor with
    | .inl c => mapStore .inl (Store.fetch β c world)
    | .inr c => mapStore .inr (Store.fetch γ c world)
  bound := fun cursor world =>
    match cursor with
    | .inl c => Store.bound β c world
    | .inr c => Store.bound γ c world
  fresh := Sum.elim Store.fresh Store.fresh
  remove := fun store entry world =>
    match store with
    | .inl s => mapStore .inl (Store.remove s entry world)
    | .inr s => mapStore .inr (Store.remove s entry world)
  migrate := fun store entry parameters world =>
    match store with
    | .inl s =>
        mapStore .inl
          (Store.migrate s entry parameters world)
    | .inr s =>
        mapStore .inr
          (Store.migrate s entry parameters world)
  flush := fun store world =>
    match store with
    | .inl s => mapStore .inl (Store.flush s world)
    | .inr s => mapStore .inr (Store.flush s world)
  location? := Sum.elim Store.location? Store.location?

end TreeKeeper
