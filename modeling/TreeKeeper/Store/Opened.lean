import TreeKeeper.Store.Directory
import TreeKeeper.Store.Snapshot

/-
  Stores that are opened by the places that name them.

  Key definitions include:
    * `OpenedStore`
    * `Uri.open`
-/

------------------------------------------------------------
-- Opening
------------------------------------------------------------

namespace TreeKeeper

/- A store of one of the kinds that places name. -/
abbrev OpenedStore := DirectoryStore ⊕ Snapshot

namespace Uri

/- Open the store at a place. -/
def «open»
    (uri : Uri)
    (world : World) : Except StoreFault OpenedStore :=
  match uri with
  | directory path =>
      (DirectoryStore.open path world).map .inl
  | snapshot path => (Snapshot.load path world).map .inr

/- Open stores, one after the other, until one fails. -/
def openAll
    (world : World) :
    List Uri → Except StoreFault (List OpenedStore)
| [] => .ok []
| uri :: rest =>
    match uri.open world with
    | .error fault => .error fault
    | .ok store => (openAll world rest).map (store :: ·)

end Uri

end TreeKeeper
