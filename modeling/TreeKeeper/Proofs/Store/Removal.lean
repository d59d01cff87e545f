import Mathlib.Tactic.TFAE
import TreeKeeper.Proofs.Store.Operations
import TreeKeeper.Proofs.Store.Selection

/-
  What a removal leaves of a path.  Only the last entry of the
  path is left out, so the one in front of it comes to light
  again, and the path is gone only if it had no other entry.

  Key definitions include:
    * `Snapshot.entriesAt`
    * `Snapshot.Yields`

  Main declarations:
    * `Snapshot.entriesAt_remove`
    * `Snapshot.tfae_remove`
    * `Snapshot.cleared_by_remove`
    * `Snapshot.uncovered_by_remove`
-/

------------------------------------------------------------
-- Entries Of A Path
------------------------------------------------------------

namespace TreeKeeper

namespace Snapshot

/- The entries of a path in their order. -/
def entriesAt
    (snapshot : Snapshot)
    (path : String) : List Entry :=
  snapshot.entries.filter (·.path = path)

/- Whether some query answers with an entry of a path. -/
def Yields
    (snapshot : Snapshot)
    (path : String) : Prop :=
  ∃ filter options projection world worlds results found,
    (Store.query snapshot filter options projection
        world).1 = .ok results ∧
      .entry found ∈ Results.answers worlds results ∧
      found.path = path

theorem entriesAt_eq_nil_iff
    {snapshot : Snapshot}
    {path : String} :
    snapshot.entriesAt path = [] ↔
      ∀ entry ∈ snapshot.entries, entry.path ≠ path := by
  unfold entriesAt
  simp

/-
  The last entry of its path goes, and if there is none the
  snapshot stays as it is.
-/
theorem entriesAt_remove
    (snapshot : Snapshot)
    (entry : Entry) :
    (snapshot.remove entry.path).entriesAt entry.path =
      (snapshot.entriesAt entry.path).dropLast := by
  have hDoes := snapshot.does_remove entry
  generalize snapshot.remove entry.path = later at hDoes ⊢
  cases hDoes with
  | @removed _ found front back _ hBefore hFound hBehind
      hAfter =>
      have hBack : back.filter (·.path = entry.path) = [] :=
        List.filter_eq_nil_iff.2 (by simpa using hBehind)
      unfold entriesAt
      rw [hBefore, hAfter, List.filter_append,
        List.filter_append,
        List.filter_cons_of_pos (by simpa using hFound),
        hBack, List.append_nil, List.dropLast_concat]
  | gone hNone =>
      rw [entriesAt_eq_nil_iff.2 hNone]
      rfl

------------------------------------------------------------
-- Paths Without Entries
------------------------------------------------------------

theorem get?_eq_none_iff
    {snapshot : Snapshot}
    {path : String} :
    snapshot.get? path = none ↔
      snapshot.entriesAt path = [] := by
  rw [get?_eq_getLast?]
  exact List.getLast?_eq_none_iff

theorem remove_eq_self_iff
    {snapshot : Snapshot}
    {entry : Entry} :
    snapshot.remove entry.path = snapshot ↔
      snapshot.entriesAt entry.path = [] := by
  constructor
  · intro hSame
    have hLength :=
      congrArg List.length (snapshot.entriesAt_remove entry)
    rw [hSame, List.length_dropLast] at hLength
    apply List.eq_nil_of_length_eq_zero
    omega
  · intro hNone
    have hDoes := snapshot.does_remove entry
    generalize snapshot.remove entry.path = later
      at hDoes ⊢
    cases hDoes with
    | @removed _ found front back _ hBefore hFound =>
        refine absurd hFound
          (entriesAt_eq_nil_iff.1 hNone found ?_)
        rw [hBefore]
        exact List.mem_append_right _ List.mem_cons_self
    | gone => rfl

------------------------------------------------------------
-- Answers Of Snapshots
------------------------------------------------------------

/- Reading a snapshot never fails. -/
theorem readings_eq_ofEntries
    (snapshot : Snapshot) :
    snapshot.readings =
      Readings.ofEntries snapshot.entries none :=
  (List.append_nil _).symm

/- A snapshot promises its entries to every query. -/
theorem promises_query
    {snapshot : Snapshot}
    {filter : Option Filter}
    {options : QueryOptions}
    {projection : Projection}
    {world : World}
    {results : Results Readings}
    (hQuery :
      (Store.query snapshot filter options projection
        world).1 = .ok results) :
    results.Promises (fun _ _ => True)
      ((Entry.sortBy options.sorts
        (snapshot.entries.filter
          (Filter.admits filter))).drop options.skip) none := by
  have hGives :=
    Readings.gives (fun _ _ => True) snapshot.readings
  have hPromises :=
    @Results.promises_start _ _ _ _ _ world hGives filter
      options projection trivial
  rw [readings_eq_ofEntries, Readings.legible_ofEntries,
    Readings.fault?_ofEntries, ite_self] at hPromises
  cases hQuery
  rw [readings_eq_ofEntries]
  exact hPromises

/- A query for everything is answered by all entries. -/
theorem answers_of_plain_query
    (snapshot : Snapshot)
    {results : Results Readings}
    (hQuery :
      (Store.query snapshot none {} {} {}).1 = .ok results) :
    Results.answers
        (List.replicate snapshot.entries.length {}) results =
      snapshot.entries.map .entry := by
  have hAll :
      snapshot.entries.filter (Filter.admits none) =
        snapshot.entries :=
    List.filter_eq_self.2 fun _ _ => rfl
  have hOutcome :
      Results.outcome results.projection results.remaining
          snapshot.entries none =
        snapshot.entries.map .entry := by
    cases hQuery
    exact List.append_nil _
  have hPromises := promises_query hQuery
  rw [hAll, Entry.sortBy_nil, List.drop_zero] at hPromises
  rw [Results.answers_of_promises hPromises
    fun _ _ => trivial, hOutcome, List.length_replicate,
    ← List.length_map Fetch.entry, Results.firstOf_length]

theorem yields_iff
    {snapshot : Snapshot}
    {path : String} :
    snapshot.Yields path ↔ snapshot.entriesAt path ≠ [] := by
  constructor
  · rintro ⟨filter, options, projection, world, worlds,
      results, found, hQuery, hFound, hPath⟩ hNone
    rw [Results.answers_of_promises (promises_query hQuery)
      fun _ _ => trivial] at hFound
    rcases Results.mem_or_eq_of_mem_firstOf hFound with
      hOutcome | hEnd
    · rcases Results.exists_of_entry_mem_outcome hOutcome
        with ⟨entry, hEntry, rfl⟩
      have hSorted := List.mem_of_mem_drop hEntry
      rw [(Entry.isSortOf_sortBy _ _).perm.mem_iff,
        List.mem_filter] at hSorted
      exact entriesAt_eq_nil_iff.1 hNone entry hSorted.1 hPath
    · exact nomatch hEnd
  · intro hSome
    rcases List.exists_mem_of_ne_nil _ hSome with
      ⟨entry, hEntry⟩
    rcases List.mem_filter.1 hEntry with ⟨hMem, hPath⟩
    refine ⟨none, {}, {}, {},
      List.replicate snapshot.entries.length {}, _, entry,
      rfl, ?_, of_decide_eq_true hPath⟩
    rw [snapshot.answers_of_plain_query rfl]
    exact List.mem_map_of_mem hMem

------------------------------------------------------------
-- Cleared Paths
------------------------------------------------------------

/-
  A removal clears a path, in every way of looking at it, just
  if the path had no second entry.
-/
theorem tfae_remove
    (snapshot : Snapshot)
    (entry : Entry)
    (world : World) :
    let later := snapshot.remove entry.path
    [(snapshot.entriesAt entry.path).length ≤ 1,
      ∀ other ∈ later.entries, other.path ≠ entry.path,
      later.get? entry.path = none,
      Store.fresh later entry world = .ok none,
      ¬ later.Yields entry.path,
      later.remove entry.path = later].TFAE := by
  intro later
  have hLength :
      (snapshot.entriesAt entry.path).length ≤ 1 ↔
        later.entriesAt entry.path = [] := by
    rw [snapshot.entriesAt_remove, ← List.length_eq_zero_iff,
      List.length_dropLast, Nat.sub_eq_zero_iff_le]
  have hFresh :
      Store.fresh later entry world = .ok none ↔
        later.get? entry.path = none :=
    ⟨Except.ok.inj, congrArg Except.ok⟩
  tfae_have 1 ↔ 2 := hLength.trans entriesAt_eq_nil_iff
  tfae_have 1 ↔ 3 := hLength.trans get?_eq_none_iff.symm
  tfae_have 3 ↔ 4 := hFresh.symm
  tfae_have 1 ↔ 5 :=
    hLength.trans (not_iff_comm.1 yields_iff.symm).symm
  tfae_have 1 ↔ 6 := hLength.trans remove_eq_self_iff.symm
  tfae_finish

/-
  Removals in snapshots of any entries after any operations.
  They succeed and leave out the last entry of the path, so
  the path is cleared just if it had no other entry, which is
  sure if no path occurs twice at the beginning.
-/
theorem cleared_by_remove
    (path : Option String)
    (entries : List Entry)
    (operations : List Operation)
    (start now : World)
    (entry : Entry) :
    let snapshot :=
      (performAll operations
        { path := path, entries := entries } start).1
    let removal := snapshot.perform (.remove entry) now
    let later := removal.2.1
    removal.1 = .ok () ∧
    later.entriesAt entry.path =
      (snapshot.entriesAt entry.path).dropLast ∧
    [(snapshot.entriesAt entry.path).length ≤ 1,
      ∀ other ∈ later.entries, other.path ≠ entry.path,
      later.get? entry.path = none,
      Store.fresh later entry now = .ok none,
      ¬ later.Yields entry.path,
      (later.perform (.remove entry) now).2.1 =
        later].TFAE ∧
    (snapshot.entries.map Entry.path).Sublist
      (entries.map Entry.path) := by
  intro snapshot removal later
  refine ⟨rfl, snapshot.entriesAt_remove entry, ?_, ?_⟩
  · exact snapshot.tfae_remove entry now
  · exact paths_sublist_performAll operations _ start

/-
  Two entries of one path, where the removal of the newer one
  brings the older one back, which a second removal takes.
-/
theorem uncovered_by_remove :
    let older := Entry.ofPath "/a" { size := 1 }
    let newer := Entry.ofPath "/a" { size := 2 }
    let snapshot : Snapshot := { entries := [older, newer] }
    let removal := snapshot.perform (.remove newer) {}
    let later := removal.2.1
    removal.1 = .ok () ∧
    later.get? "/a" = some older ∧
    Store.fresh later newer {} = .ok (some older) ∧
    later.Yields "/a" ∧
    (later.perform (.remove newer) {}).2.1.entries = [] ∧
    later.entries = [older] := by
  intro older newer snapshot removal later
  have hFound : later.get? "/a" = some older := by
    decide +kernel
  refine ⟨rfl, hFound, congrArg Except.ok hFound, ?_, ?_, ?_⟩
  · refine yields_iff.2 fun hNone => ?_
    rw [get?_eq_none_iff.2 hNone] at hFound
    exact nomatch hFound
  · decide +kernel
  · decide +kernel

end Snapshot

end TreeKeeper
