import TreeKeeper.Store.Basic

/-
  Scripted stores: every operation plays back an answer that
  was written down beforehand.  With them a policy can be
  tried out on any course of events.

  Key definitions include:
    * `Script`
-/

------------------------------------------------------------
-- Scripts
------------------------------------------------------------

namespace TreeKeeper

/-
  The answers of a scripted store.  Queries give the steps of
  the script whatever they ask for.  An entry that `again`
  does not name is read again as it was.
-/
structure Script where
  title : String
  capabilities : Capabilities := {}
  refusal : Option StoreFault := none
  steps : List Fetch := []
  again : List (String × Except StoreFault (Option Entry)) :=
    []
  removal : Option StoreFault := none
  migration : Option StoreFault := none
  flushing : Option StoreFault := none
  mount : Option String := none

namespace Script

/- Success, or a fault that was written down. -/
def outcome
    {α : Type}
    (fault : Option StoreFault)
    (value : α) : Except StoreFault α :=
  match fault with
  | some fault => .error fault
  | none => .ok value

/- The next step of a script. -/
def nextStep :
    List Fetch → World → Fetch × List Fetch × World
| [], world => (.finished, [], world)
| step :: rest, world => (step, rest, world)

/- The answer for an entry that is read again. -/
def fresh
    (script : Script)
    (entry : Entry) : Except StoreFault (Option Entry) :=
  match script.again.lookup entry.path with
  | some answer => answer
  | none => .ok (some entry)

end Script

instance : Store Script (List Fetch) where
  name := Script.title
  capabilities := Script.capabilities
  predicates := fun _ => []
  query := fun script _ _ _ world =>
    (Script.outcome script.refusal script.steps, world)
  fetch := Script.nextStep
  bound := fun steps _ => steps.length
  fresh := fun script entry _ => script.fresh entry
  remove := fun script _ world =>
    (Script.outcome script.removal (), script, world)
  migrate := fun script _ _ world =>
    (Script.outcome script.migration (), script, world)
  flush := fun script world =>
    (Script.outcome script.flushing (), script, world)
  location? := fun script entry =>
    script.mount.map fun mount => mount ++ entry.path

end TreeKeeper
