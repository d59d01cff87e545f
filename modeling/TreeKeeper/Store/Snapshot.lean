import TreeKeeper.Entry.Record
import TreeKeeper.Predicate.Builtin
import TreeKeeper.Store.Results
import TreeKeeper.Text.Blank

/-
  Snapshots: stores that hold their entries in memory.  A
  snapshot may belong to a file with one entry on each line.
  Entries are found by the positions of their paths, which
  are kept in step with the entries.  A path may have several
  entries, and then the last one counts.

  Key definitions include:
    * `positionsOf`
    * `Snapshot`
    * `Snapshot.get?`
    * `Snapshot.ofText`
    * `Snapshot.textOf`
    * `Snapshot.load`
    * `Snapshot.save`
-/

------------------------------------------------------------
-- Positions
------------------------------------------------------------

namespace TreeKeeper

/-
  The position of each path among entries.  Of several
  entries with one path, the last one wins.
-/
def positionsOf (entries : List Entry) : Dictionary Nat :=
  Dictionary.ofList (entries.map Entry.path).zipIdx

/- An entry that keeps its path keeps all positions. -/
theorem positionsOf_modify
    (change : Entry → Entry)
    (hChange : ∀ entry, (change entry).path = entry.path)
    (entries : List Entry)
    (position : Nat) :
    positionsOf (entries.modify position change) =
      positionsOf entries := by
  have hPaths :
      (entries.modify position change).map Entry.path =
        entries.map Entry.path := by
    induction entries generalizing position with
    | nil => rw [List.modify_nil]
    | cons entry rest ih =>
        cases position with
        | zero =>
            rw [List.modify_zero_cons, List.map_cons,
              List.map_cons, hChange]
        | succ position =>
            rw [List.modify_succ_cons, List.map_cons,
              List.map_cons, ih]
  unfold positionsOf
  rw [hPaths]

------------------------------------------------------------
-- Snapshots
------------------------------------------------------------

/-
  Entries with the positions of their paths, the file that
  they belong to, and whether they have changed since they
  were read or written.
-/
structure Snapshot where
  path : Option String := none
  entries : List Entry := []
  positions : Dictionary Nat := positionsOf entries
  isChanged : Bool := false
  indexed : positions = positionsOf entries := by rfl

namespace Snapshot

/- Entries as they are loaded from the file at a path. -/
def ofEntries
    (path : String)
    (entries : List Entry) : Snapshot where
  path := some path
  entries := entries

/- The entry at the position of a path. -/
def get?
    (snapshot : Snapshot)
    (path : String) : Option Entry :=
  (snapshot.positions.get? path).bind fun position =>
    snapshot.entries[position]?

------------------------------------------------------------
-- Texts
------------------------------------------------------------

/- Whether a line holds no entry. -/
def isBlankLine (line : List Char) : Bool :=
  line.all Text.isBlank

/-
  Read the entries on lines that are counted from a number.
  The number of a malformed line is the fault.
-/
def readLines :
    Nat → List (List Char) → Except Nat (List Entry)
| _, [] => .ok []
| number, line :: rest =>
    if isBlankLine line then readLines (number + 1) rest
    else
      match Entry.ofText? (String.ofList line) with
      | none => .error number
      | some entry =>
          (readLines (number + 1) rest).map (entry :: ·)

/- The entries of a text, or the number of a bad line. -/
def ofText (text : String) : Except Nat (List Entry) :=
  readLines 1 (Text.splitOn '\n' text.toList)

/- The entries as a text, each on a line of its own. -/
def textOf (entries : List Entry) : String :=
  String.join (entries.map fun e => e.toText ++ "\n")

------------------------------------------------------------
-- Files
------------------------------------------------------------

/- The snapshot in the file at a path. -/
def load
    (path : String)
    (world : World) : Except StoreFault Snapshot :=
  match world.tree.readText world.directory path with
  | .error fault => .error (.io path fault)
  | .ok text =>
      match ofText text with
      | .error line => .error (.snapshot path line)
      | .ok entries => .ok (ofEntries path entries)

/- Write the entries to the file at a path. -/
def save
    (snapshot : Snapshot)
    (path : String)
    (world : World) : Except StoreFault Unit × World :=
  match world.tree.createFile world.directory path with
  | .error fault => (.error (.io path fault), world)
  | .ok (location, tree) =>
      (.ok (),
        world.withTree
          (tree.appendText location
            (textOf snapshot.entries)))

------------------------------------------------------------
-- Changes
------------------------------------------------------------

/-
  Leave out the entry at the position of a path.  The entries
  behind it move up, so all positions are taken anew.
-/
def remove
    (snapshot : Snapshot)
    (path : String) : Snapshot :=
  match snapshot.positions.get? path with
  | none => snapshot
  | some position =>
      { path := snapshot.path
        entries := snapshot.entries.eraseIdx position
        isChanged := true }

/- The entry in a given tier. -/
def withTier (tier : String) (entry : Entry) : Entry :=
  { entry with
    xattrs :=
      entry.xattrs.insert Predicate.tierAttribute tier }

/-
  Move the entry at the position of a path to the tier that
  the parameters name as their target.
-/
def migrate
    (snapshot : Snapshot)
    (path : String)
    (parameters : Dictionary String) :
    Except MigrationFault Snapshot :=
  match parameters.get? "target" with
  | none => .error .noTarget
  | some tier =>
      match snapshot.positions.get? path with
      | none => .error (.noEntry path)
      | some position =>
          .ok { snapshot with
            entries :=
              snapshot.entries.modify position
                (withTier tier)
            isChanged := true
            indexed :=
              snapshot.indexed.trans
                (positionsOf_modify (withTier tier)
                  (fun _ => rfl) snapshot.entries
                  position).symm }

/- Write changed entries back to the file they belong to. -/
def flush
    (snapshot : Snapshot)
    (world : World) :
    Except StoreFault Unit × Snapshot × World :=
  match snapshot.path with
  | none => (.ok (), snapshot, world)
  | some path =>
      if snapshot.isChanged then
        match snapshot.save path
            (world.info
              ("writing snapshot back to '" ++ path ++
                "'")) with
        | (.ok (), world) =>
            (.ok (),
              { snapshot with isChanged := false }, world)
        | (.error fault, world) =>
            (.error fault, snapshot, world)
      else (.ok (), snapshot, world)

------------------------------------------------------------
-- Stores
------------------------------------------------------------

/- The entries as a source. -/
def readings (snapshot : Snapshot) : Readings :=
  snapshot.entries.map .ok

/- Answer a query. -/
def query
    (snapshot : Snapshot)
    (filter : Option Filter)
    (options : QueryOptions)
    (projection : Projection)
    (world : World) :
    Except StoreFault (Results Readings) × World :=
  let (results, world) :=
    Results.start snapshot.readings filter options
      projection world
  (.ok results, world)

end Snapshot

instance : Store Snapshot (Results Readings) where
  name := fun _ => "snapshot"
  capabilities := fun _ =>
    { delete := true, migrate := true, xattrs := true }
  predicates := fun _ => [Predicate.tier]
  query := Snapshot.query
  fetch := Results.fetch
  bound := Results.bound
  fresh := fun snapshot entry _ =>
    .ok (snapshot.get? entry.path)
  remove := fun snapshot entry world =>
    (.ok (), snapshot.remove entry.path, world)
  migrate := fun snapshot entry parameters world =>
    match snapshot.migrate entry.path parameters with
    | .ok snapshot => (.ok (), snapshot, world)
    | .error fault =>
        (.error (.migration fault), snapshot, world)
  flush := Snapshot.flush
  location? := fun _ _ => none

end TreeKeeper
