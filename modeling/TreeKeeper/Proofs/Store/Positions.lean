import Mathlib.Data.List.Induction
import TreeKeeper.Store.Snapshot

/-
  The positions of paths among entries.  A path is at the
  position of its last entry, or at none if it has no entry,
  so looking a path up finds its last entry.

  Key definitions include:
    * `Located`

  Main declarations:
    * `located_positionsOf`
    * `Snapshot.located`
    * `Snapshot.get?_eq_getLast?`
-/

------------------------------------------------------------
-- Last Entries
------------------------------------------------------------

namespace TreeKeeper

/-
  Where the last entry of a path stands among entries: in
  front of entries of other paths, or nowhere.
-/
inductive Located
    (entries : List Entry)
    (path : String) : Option Nat → Prop
| nowhere
    (hNone : ∀ entry ∈ entries, entry.path ≠ path) :
    Located entries path none
| last
    {front back : List Entry}
    {entry : Entry}
    (hEntries : entries = front ++ entry :: back)
    (hPath : entry.path = path)
    (hBehind : ∀ other ∈ back, other.path ≠ path) :
    Located entries path (some front.length)

namespace Located

variable {entries : List Entry} {path : String}

/- An entry of the path is the last one behind all others. -/
theorem concat_self
    (entries : List Entry)
    (entry : Entry) :
    Located (entries ++ [entry]) entry.path
      (some entries.length) :=
  .last rfl rfl nofun

/- An entry of another path moves nothing. -/
theorem concat_other
    {position : Option Nat}
    {entry : Entry}
    (hLocated : Located entries path position)
    (hOther : entry.path ≠ path) :
    Located (entries ++ [entry]) path position := by
  cases hLocated with
  | nowhere hNone =>
      refine .nowhere ?_
      simpa [or_imp, forall_and] using ⟨hNone, hOther⟩
  | last hEntries hPath hBehind =>
      rw [hEntries, List.append_assoc, List.cons_append]
      refine .last rfl hPath ?_
      simpa [or_imp, forall_and] using ⟨hBehind, hOther⟩

end Located

------------------------------------------------------------
-- Positions
------------------------------------------------------------

theorem positionsOf_concat
    (entries : List Entry)
    (entry : Entry) :
    positionsOf (entries ++ [entry]) =
      (positionsOf entries).insert entry.path
        entries.length := by
  simp [positionsOf, Dictionary.ofList, List.zipIdx_append]

/-
  By induction from the end, where the path that is written
  last takes the place of what was known of it.
-/
theorem located_positionsOf
    (entries : List Entry)
    (path : String) :
    Located entries path
      ((positionsOf entries).get? path) := by
  induction entries using List.reverseRecOn with
  | nil => exact .nowhere nofun
  | append_singleton entries entry ih =>
      rw [positionsOf_concat, Dictionary.get?_insert]
      by_cases hPath : path = entry.path
      · rw [if_pos hPath, hPath]
        exact .concat_self entries entry
      · rw [if_neg hPath]
        exact ih.concat_other (Ne.symm hPath)

namespace Snapshot

/- A snapshot knows where the last entry of a path stands. -/
theorem located
    (snapshot : Snapshot)
    (path : String) :
    Located snapshot.entries path
      (snapshot.positions.get? path) := by
  rw [snapshot.indexed]
  exact located_positionsOf snapshot.entries path

/- A path is looked up as the last entry that has it. -/
theorem get?_eq_getLast?
    (snapshot : Snapshot)
    (path : String) :
    snapshot.get? path =
      (snapshot.entries.filter (·.path = path)).getLast? := by
  have hLocated := snapshot.located path
  unfold get?
  generalize snapshot.positions.get? path = position
    at hLocated ⊢
  cases hLocated with
  | nowhere hNone =>
      rw [List.filter_eq_nil_iff.2 (by simpa using hNone)]
      rfl
  | @last front back entry hEntries hPath hBehind =>
      have hBack : back.filter (·.path = path) = [] :=
        List.filter_eq_nil_iff.2 (by simpa using hBehind)
      rw [hEntries, List.filter_append,
        List.filter_cons_of_pos (by simpa using hPath), hBack,
        List.getLast?_concat, Option.bind_some,
        List.getElem?_append_right (Nat.le_refl _),
        Nat.sub_self]
      rfl

/- What is looked up has the path that was asked for. -/
theorem path_of_get?
    {snapshot : Snapshot}
    {entry : Entry}
    {path : String}
    (hFound : snapshot.get? path = some entry) :
    entry.path = path := by
  rw [get?_eq_getLast?] at hFound
  have hMember := List.mem_of_getLast? hFound
  simpa using (List.mem_filter.1 hMember).2

end Snapshot

end TreeKeeper
