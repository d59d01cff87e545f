import TreeKeeper.Proofs.Store.Positions

/-
  Snapshots under one operation after the other.  Each one
  leaves out or moves at most the last entry of the path that
  it names, and all other entries keep their values and their
  order.

  Key definitions include:
    * `Entry.IsMoved`
    * `Snapshot.Operation`
    * `Snapshot.Operation.Does`
    * `Snapshot.performAll`

  Main declarations:
    * `Snapshot.does_perform`
    * `Snapshot.holds_performAll`
    * `Snapshot.perform_in_place`
-/

------------------------------------------------------------
-- Moved Entries
------------------------------------------------------------

namespace TreeKeeper

/- Whether an entry is another one but for its tier. -/
structure Entry.IsMoved
    (tier : String)
    (before after : Entry) : Prop where
  path : after.path = before.path
  name : after.name = before.name
  symlink : after.symlink = before.symlink
  stat : after.stat = before.stat
  tier :
    after.xattrs.get? Predicate.tierAttribute = some tier
  others :
    ∀ key, key ≠ Predicate.tierAttribute →
      after.xattrs.get? key = before.xattrs.get? key

namespace Snapshot

theorem isMoved_withTier
    (tier : String)
    (entry : Entry) :
    entry.IsMoved tier (withTier tier entry) where
  path := rfl
  name := rfl
  symlink := rfl
  stat := rfl
  tier :=
    (Dictionary.get?_insert _ _ _ _).trans (if_pos rfl)
  others := fun _ hKey =>
    (Dictionary.get?_insert _ _ _ _).trans (if_neg hKey)

------------------------------------------------------------
-- Operations
------------------------------------------------------------

/- What a snapshot is asked to do to its entries. -/
inductive Operation where
| remove (entry : Entry)
| migrate (entry : Entry) (parameters : Dictionary String)
| flush

/- The path that an operation is about, if it is about one. -/
def Operation.path? : Operation → Option String
| remove entry => some entry.path
| migrate entry _ => some entry.path
| flush => none

/- Ask a snapshot for an operation. -/
def perform
    (snapshot : Snapshot)
    (operation : Operation)
    (world : World) :
    Except StoreFault Unit × Snapshot × World :=
  match operation with
  | .remove entry => Store.remove snapshot entry world
  | .migrate entry parameters =>
      Store.migrate snapshot entry parameters world
  | .flush => Store.flush snapshot world

/- Ask for operations one by one, whether they fail or not. -/
def performAll :
    List Operation → Snapshot → World → Snapshot × World
| [], snapshot, world => (snapshot, world)
| operation :: rest, snapshot, world =>
    let (_, snapshot, world) :=
      snapshot.perform operation world
    performAll rest snapshot world

/- What each operation keeps holds of a whole run. -/
theorem holds_performAll
    {Holds : Snapshot → World → Prop}
    {operations : List Operation}
    {snapshot : Snapshot}
    {world : World}
    (hStart : Holds snapshot world)
    (hStep :
      ∀ operation ∈ operations, ∀ snapshot world,
        Holds snapshot world →
          Holds (snapshot.perform operation world).2.1
            (snapshot.perform operation world).2.2) :
    Holds (performAll operations snapshot world).1
      (performAll operations snapshot world).2 := by
  induction operations generalizing snapshot world with
  | nil => exact hStart
  | cons operation rest ih =>
      rcases List.forall_mem_cons.1 hStep with ⟨hFirst, hRest⟩
      exact ih (hFirst snapshot world hStart) hRest

------------------------------------------------------------
-- Effects
------------------------------------------------------------

/-
  What an operation does to a snapshot.  Of several entries of
  a path only the last one is removed or moved, and where the
  operation fails the snapshot stays as it is.
-/
inductive Operation.Does
    (before : Snapshot) :
    Operation → Except StoreFault Unit → Snapshot → Prop
| removed
    {entry found : Entry}
    {front back : List Entry}
    {after : Snapshot}
    (hBefore : before.entries = front ++ found :: back)
    (hFound : found.path = entry.path)
    (hBehind : ∀ other ∈ back, other.path ≠ entry.path)
    (hAfter : after.entries = front ++ back)
    (hPath : after.path = before.path)
    (hChanged : after.isChanged = true) :
    Does before (.remove entry) (.ok ()) after
| gone
    {entry : Entry}
    (hNone :
      ∀ other ∈ before.entries, other.path ≠ entry.path) :
    Does before (.remove entry) (.ok ()) before
| migrated
    {entry found moved : Entry}
    {parameters : Dictionary String}
    {tier : String}
    {front back : List Entry}
    {after : Snapshot}
    (hTier : parameters.get? "target" = some tier)
    (hBefore : before.entries = front ++ found :: back)
    (hFound : found.path = entry.path)
    (hBehind : ∀ other ∈ back, other.path ≠ entry.path)
    (hMoved : found.IsMoved tier moved)
    (hAfter : after.entries = front ++ moved :: back)
    (hPath : after.path = before.path)
    (hChanged : after.isChanged = true) :
    Does before (.migrate entry parameters) (.ok ()) after
| noTarget
    {entry : Entry}
    {parameters : Dictionary String}
    (hTier : parameters.get? "target" = none) :
    Does before (.migrate entry parameters)
      (.error (.migration .noTarget)) before
| noEntry
    {entry : Entry}
    {parameters : Dictionary String}
    {tier : String}
    (hTier : parameters.get? "target" = some tier)
    (hNone :
      ∀ other ∈ before.entries, other.path ≠ entry.path) :
    Does before (.migrate entry parameters)
      (.error (.migration (.noEntry entry.path))) before
| flushed
    {result : Except StoreFault Unit}
    {after : Snapshot}
    (hAfter : after.entries = before.entries)
    (hPath : after.path = before.path)
    (hChanged :
      after.isChanged = before.isChanged ∨
        result = .ok () ∧ after.isChanged = false) :
    Does before .flush result after

theorem does_remove
    (snapshot : Snapshot)
    (entry : Entry) :
    Operation.Does snapshot (.remove entry) (.ok ())
      (snapshot.remove entry.path) := by
  have hLocated := snapshot.located entry.path
  unfold remove
  generalize snapshot.positions.get? entry.path = position
    at hLocated ⊢
  cases hLocated with
  | nowhere hNone => exact .gone hNone
  | last hEntries hPath hBehind =>
      refine .removed hEntries hPath hBehind ?_ rfl rfl
      dsimp only
      rw [hEntries,
        List.eraseIdx_append_of_length_le (Nat.le_refl _),
        Nat.sub_self, List.eraseIdx_cons_zero]

theorem does_migrate
    (snapshot : Snapshot)
    (entry : Entry)
    (parameters : Dictionary String)
    (world : World) :
    Operation.Does snapshot (.migrate entry parameters)
      (Store.migrate snapshot entry parameters world).1
      (Store.migrate snapshot entry parameters
        world).2.1 := by
  simp only [Store.migrate, migrate]
  cases hTier : parameters.get? "target" with
  | none => exact .noTarget hTier
  | some tier =>
      have hLocated := snapshot.located entry.path
      generalize snapshot.positions.get? entry.path = position
        at hLocated ⊢
      cases hLocated with
      | nowhere hNone => exact .noEntry hTier hNone
      | last hEntries hPath hBehind =>
          refine .migrated hTier hEntries hPath hBehind
            (isMoved_withTier tier _) ?_ rfl rfl
          simp [hEntries, List.modify_eq_take_drop]

theorem does_flush
    (snapshot : Snapshot)
    (world : World) :
    Operation.Does snapshot .flush (snapshot.flush world).1
      (snapshot.flush world).2.1 := by
  unfold flush
  split
  · exact .flushed rfl rfl (.inl rfl)
  · split
    · split
      · exact .flushed rfl rfl (.inr ⟨rfl, rfl⟩)
      · exact .flushed rfl rfl (.inl rfl)
    · exact .flushed rfl rfl (.inl rfl)

/- Every operation does what operations of its kind do. -/
theorem does_perform
    (snapshot : Snapshot)
    (operation : Operation)
    (world : World) :
    operation.Does snapshot
      (snapshot.perform operation world).1
      (snapshot.perform operation world).2.1 := by
  cases operation with
  | remove entry => exact snapshot.does_remove entry
  | migrate entry parameters =>
      exact snapshot.does_migrate entry parameters world
  | flush => exact snapshot.does_flush world

/- Entries of paths that are not named stay, in order. -/
theorem Operation.Does.others_eq
    {before after : Snapshot}
    {operation : Operation}
    {result : Except StoreFault Unit}
    {paths : List String}
    (hDoes : operation.Does before result after)
    (hNamed : ∀ path ∈ operation.path?, path ∈ paths) :
    after.entries.filter (·.path ∉ paths) =
      before.entries.filter (·.path ∉ paths) := by
  have hOut {found entry : Entry}
      (hEntry : entry.path ∈ paths)
      (hFound : found.path = entry.path) :
      ¬ (found.path ∉ paths) :=
    not_not_intro (hFound ▸ hEntry)
  cases hDoes with
  | removed hBefore hFound _ hAfter =>
      rw [hBefore, hAfter, List.filter_append,
        List.filter_append, List.filter_cons_of_neg]
      simpa using hOut (hNamed _ rfl) hFound
  | gone => rfl
  | migrated _ hBefore hFound _ hMoved hAfter =>
      have hSame := hMoved.path.trans hFound
      rw [hBefore, hAfter, List.filter_append,
        List.filter_append, List.filter_cons_of_neg,
        List.filter_cons_of_neg]
      · simpa using hOut (hNamed _ rfl) hFound
      · simpa using hOut (hNamed _ rfl) hSame
  | noTarget => rfl
  | noEntry => rfl
  | flushed hAfter => rw [hAfter]

/- No operation adds a path or changes their order. -/
theorem Operation.Does.paths_sublist
    {before after : Snapshot}
    {operation : Operation}
    {result : Except StoreFault Unit}
    (hDoes : operation.Does before result after) :
    (after.entries.map Entry.path).Sublist
      (before.entries.map Entry.path) := by
  cases hDoes with
  | removed hBefore _ _ hAfter =>
      rw [hBefore, hAfter]
      refine List.Sublist.map _ ?_
      exact (List.Sublist.refl _).append
        (List.sublist_cons_self _ _)
  | gone => exact .refl _
  | migrated _ hBefore _ _ hMoved hAfter =>
      have hPaths :
          after.entries.map Entry.path =
            before.entries.map Entry.path := by
        simp [hBefore, hAfter, hMoved.path]
      exact hPaths ▸ .refl _
  | noTarget => exact .refl _
  | noEntry => exact .refl _
  | flushed hAfter => exact hAfter ▸ .refl _

/- No operation moves a snapshot to another file. -/
theorem Operation.Does.path_eq
    {before after : Snapshot}
    {operation : Operation}
    {result : Except StoreFault Unit}
    (hDoes : operation.Does before result after) :
    after.path = before.path := by
  cases hDoes with
  | removed _ _ _ _ hPath => exact hPath
  | gone => rfl
  | migrated _ _ _ _ _ _ hPath => exact hPath
  | noTarget => rfl
  | noEntry => rfl
  | flushed _ hPath => exact hPath

/- Entries of other paths are looked up as before. -/
theorem Operation.Does.get?_eq
    {before after : Snapshot}
    {operation : Operation}
    {result : Except StoreFault Unit}
    {path : String}
    (hDoes : operation.Does before result after)
    (hPath : ∀ named ∈ operation.path?, named ≠ path) :
    after.get? path = before.get? path := by
  have hOthers :
      after.entries.filter
          (·.path ∉ operation.path?.toList) =
        before.entries.filter
          (·.path ∉ operation.path?.toList) :=
    hDoes.others_eq fun named hNamed =>
      Option.mem_toList.2 hNamed
  have hKept : ∀ entries : List Entry,
      (entries.filter
          (·.path ∉ operation.path?.toList)).filter
            (·.path = path) =
        entries.filter (·.path = path) := by
    intro entries
    rw [List.filter_filter]
    apply List.filter_congr
    intro other _
    by_cases hOther : other.path = path
    · have hFree : path ∉ operation.path?.toList :=
        fun hNamed =>
          hPath path (Option.mem_toList.1 hNamed) rfl
      simp [hOther, hFree]
    · simp [hOther]
  rw [get?_eq_getLast?, get?_eq_getLast?, ← hKept, hOthers,
    hKept]

------------------------------------------------------------
-- Runs
------------------------------------------------------------

/- A run keeps entries of paths that it does not name. -/
theorem others_eq_performAll
    (operations : List Operation)
    (snapshot : Snapshot)
    (world : World) :
    (performAll operations snapshot world).1.entries.filter
        (·.path ∉ operations.filterMap Operation.path?) =
      snapshot.entries.filter
        (·.path ∉ operations.filterMap Operation.path?) := by
  refine @holds_performAll
    (fun later _ =>
      later.entries.filter
          (·.path ∉ operations.filterMap Operation.path?) =
        snapshot.entries.filter
          (·.path ∉ operations.filterMap Operation.path?))
    operations snapshot world rfl ?_
  intro operation hOperation before world hBefore
  rw [← hBefore]
  apply (before.does_perform operation world).others_eq
  intro path hPath
  exact List.mem_filterMap.2 ⟨operation, hOperation, hPath⟩

theorem paths_sublist_performAll
    (operations : List Operation)
    (snapshot : Snapshot)
    (world : World) :
    ((performAll operations snapshot
        world).1.entries.map Entry.path).Sublist
      (snapshot.entries.map Entry.path) := by
  refine @holds_performAll
    (fun later _ =>
      (later.entries.map Entry.path).Sublist
        (snapshot.entries.map Entry.path))
    operations snapshot world (.refl _) ?_
  intro operation _ before world hBefore
  exact (before.does_perform operation
    world).paths_sublist.trans hBefore

/-
  After any operations on any entries, each path is at the
  position of its last entry and looked up as that, the next
  operation does what its kind does, and entries of paths that
  no operation named are the old ones in their old order.
-/
theorem perform_in_place
    (path : Option String)
    (entries : List Entry)
    (operations : List Operation)
    (world : World) :
    let snapshot :=
      (performAll operations
        { path := path, entries := entries } world).1
    (∀ path,
      Located snapshot.entries path
          (snapshot.positions.get? path) ∧
        snapshot.get? path =
          (snapshot.entries.filter
            (·.path = path)).getLast?) ∧
    (∀ (operation : Operation) (world : World),
      operation.Does snapshot
        (snapshot.perform operation world).1
        (snapshot.perform operation world).2.1) ∧
    snapshot.entries.filter
        (·.path ∉ operations.filterMap Operation.path?) =
      entries.filter
        (·.path ∉ operations.filterMap Operation.path?) := by
  intro snapshot
  refine ⟨?found, ?next, ?others⟩
  case found =>
    intro path
    exact ⟨snapshot.located path,
      snapshot.get?_eq_getLast? path⟩
  case next => exact snapshot.does_perform
  case others => exact others_eq_performAll operations _ world

end Snapshot

end TreeKeeper
