import TreeKeeper.Proofs.Entry.RoundTrip
import TreeKeeper.Proofs.FileTree.Writing
import TreeKeeper.Proofs.Store.Flushing
import TreeKeeper.Proofs.Store.Logging
import TreeKeeper.Proofs.Text.Pieces

/-
  Saving snapshots.  The text of some entries holds these
  entries, one on each line, so a snapshot that is written to
  a file, be it a new one or not, is what is loaded from it
  then.

  Main declarations:
    * `Snapshot.ofText_textOf`
    * `Snapshot.load_congr`
    * `Snapshot.load_save`
    * `Snapshot.load_flush`
-/

------------------------------------------------------------
-- Lines
------------------------------------------------------------

namespace TreeKeeper

namespace Entry

/- The text of an entry is one line. -/
theorem newline_not_mem_toText
    (entry : Entry) :
    '\n' ∉ entry.toText.toList := by
  intro hMember
  exact absurd (entry.isPrintable_toText _ hMember)
    (by decide)

/- This line is not blank, as it begins with a brace. -/
theorem not_isBlankLine_toText
    (entry : Entry) :
    ¬ Snapshot.isBlankLine entry.toText.toList = true := by
  have hBrace : '\x7b' ∈ entry.toText.toList := by
    unfold toText Json.render toJson
    rw [String.toList_ofList, Json.renderValue]
    exact List.mem_cons_self
  intro hBlank
  have hAll := List.all_eq_true.1 hBlank _ hBrace
  exact absurd hAll (by decide)

end Entry

namespace Snapshot

theorem splitOn_textOf
    (entries : List Entry) :
    Text.splitOn '\n' (textOf entries).toList =
      entries.map (fun e => e.toText.toList) ++ [[]] := by
  induction entries with
  | nil => rfl
  | cons entry rest ih =>
      have hText :
          (textOf (entry :: rest)).toList =
            entry.toText.toList ++
              '\n' :: (textOf rest).toList := by
        unfold textOf
        rw [List.map_cons, String.join_cons]
        simp
      rw [hText,
        Text.splitOn_line entry.newline_not_mem_toText, ih]
      rfl

theorem readLines_toText
    (number : Nat)
    (entries : List Entry) :
    readLines number
        (entries.map (fun e => e.toText.toList) ++ [[]]) =
      .ok entries := by
  induction entries generalizing number with
  | nil => rfl
  | cons entry rest ih =>
      rw [List.map_cons, List.cons_append, readLines,
        if_neg entry.not_isBlankLine_toText,
        String.ofList_toList, entry.ofText?_toText]
      dsimp only
      rw [ih]
      rfl

/- The text of entries holds these entries. -/
theorem ofText_textOf
    (entries : List Entry) :
    ofText (textOf entries) = .ok entries := by
  unfold ofText
  rw [splitOn_textOf]
  exact readLines_toText 1 entries

------------------------------------------------------------
-- Loading
------------------------------------------------------------

/- What is loaded depends on files alone. -/
theorem load_congr
    (path : String)
    {first second : World}
    (hWorld : first.SameFiles second) :
    load path first = load path second := by
  unfold load
  rw [hWorld.tree, hWorld.directory]

theorem load_eq_ok_iff
    {path : String}
    {world : World}
    {snapshot : Snapshot} :
    load path world = .ok snapshot ↔
      ∃ text entries,
        world.tree.readText world.directory path =
          .ok text ∧
        ofText text = .ok entries ∧
        snapshot = ofEntries path entries := by
  unfold load
  cases world.tree.readText world.directory path with
  | error fault => simp
  | ok text =>
      cases hText : ofText text with
      | error line => simp [hText]
      | ok entries =>
          simp [hText, ofEntries, eq_comm]

/- A file with the text of entries is loaded as these. -/
theorem load_of_readText
    {path : String}
    {entries : List Entry}
    {world : World}
    (hRead :
      world.tree.readText world.directory path =
        .ok (textOf entries)) :
    load path world = .ok (ofEntries path entries) :=
  load_eq_ok_iff.2
    ⟨_, entries, hRead, ofText_textOf entries, rfl⟩

------------------------------------------------------------
-- Saving
------------------------------------------------------------

/- What is saved to a file is loaded from it again. -/
theorem load_save
    {snapshot : Snapshot}
    {path : String}
    {world : World}
    (hSave : (snapshot.save path world).1 = .ok ()) :
    load path (snapshot.save path world).2 =
      .ok (ofEntries path snapshot.entries) := by
  unfold save at hSave ⊢
  cases hCreate :
      world.tree.createFile world.directory path with
  | error fault =>
      rw [hCreate] at hSave
      exact nomatch hSave
  | ok created =>
      rcases created with ⟨location, later⟩
      apply load_of_readText
      exact FileTree.readText_appendText_of_createFile hCreate
        (textOf snapshot.entries)

/-
  Writing changes back succeeds by saving them, and then they
  are no longer marked.
-/
theorem flush_eq_of_changed
    {snapshot : Snapshot}
    {path : String}
    {world : World}
    (hPath : snapshot.path = some path)
    (hChanged : snapshot.isChanged = true)
    (hFlush : (snapshot.flush world).1 = .ok ()) :
    let noted :=
      world.info ("writing snapshot back to '" ++ path ++ "'")
    (snapshot.save path noted).1 = .ok () ∧
      (snapshot.flush world).2.1.isChanged = false ∧
      (snapshot.flush world).2.2 =
        (snapshot.save path noted).2 := by
  intro noted
  unfold flush at hFlush ⊢
  rw [hPath] at hFlush ⊢
  dsimp only at hFlush ⊢
  rw [if_pos hChanged] at hFlush ⊢
  generalize snapshot.save path _ = saved at hFlush ⊢
  rcases saved with ⟨result, after⟩
  cases result with
  | error fault => exact nomatch hFlush
  | ok done => exact ⟨rfl, rfl, rfl⟩

/-
  A snapshot that is flushed, and that has changed if its file
  does not hold its entries, is what the file holds then.
-/
theorem load_flush
    {snapshot : Snapshot}
    {path : String}
    {world : World}
    (hPath : snapshot.path = some path)
    (hKept :
      snapshot.isChanged = false →
        load path world =
          .ok (ofEntries path snapshot.entries))
    (hFlush : (snapshot.flush world).1 = .ok ()) :
    load path (snapshot.flush world).2.2 =
      .ok (ofEntries path snapshot.entries) := by
  cases hChanged : snapshot.isChanged with
  | false =>
      rw [flush_of_saved (not_isUnsaved_of_unchanged hChanged)]
      exact hKept hChanged
  | true =>
      rcases flush_eq_of_changed hPath hChanged hFlush with
        ⟨hSave, _, hWorld⟩
      rw [hWorld]
      exact load_save hSave

end Snapshot

/- A snapshot that is loaded is what its place opens. -/
theorem Uri.open_eq_of_load
    {path : String}
    {world : World}
    {snapshot : Snapshot}
    (hLoad : Snapshot.load path world = .ok snapshot) :
    (Uri.snapshot path).open world = .ok (.inr snapshot) :=
  map_eq_ok_iff.2 ⟨snapshot, hLoad, rfl⟩

end TreeKeeper
