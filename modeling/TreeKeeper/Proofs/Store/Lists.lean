import TreeKeeper.Proofs.Store.Selection

/-
  Queries on lists.  What a list gives does not depend on the
  world, and neither does what a query on it answers.

  Main declarations:
    * `Results.exists_fetch`
    * `Results.Promises.next`
-/

------------------------------------------------------------
-- Lists
------------------------------------------------------------

namespace TreeKeeper

/- What a list gives does not depend on the world. -/
theorem Feed.exists_next
    (feed : Feed Readings) :
    ∃ reading later, ∀ world : World,
      feed.next world = (reading, later, world) := by
  cases feed with
  | drawn readings =>
      cases readings with
      | nil => exact ⟨none, .drawn [], fun _ => rfl⟩
      | cons reading rest =>
          exact ⟨some reading, .drawn rest, fun _ => rfl⟩
  | sorted readings =>
      cases readings with
      | nil => exact ⟨none, .sorted [], fun _ => rfl⟩
      | cons reading rest =>
          exact ⟨some reading, .sorted rest, fun _ => rfl⟩

------------------------------------------------------------
-- Queries
------------------------------------------------------------

namespace Results

theorem exists_advance
    (steps : Nat)
    (results : Results Readings) :
    ∃ fetched later, ∀ world : World,
      ∃ after,
        results.advance steps world =
          (fetched, later, after) := by
  induction steps generalizing results with
  | zero => exact ⟨_, _, fun world => ⟨world, rfl⟩⟩
  | succ steps ih =>
      rcases results.feed.exists_next with
        ⟨reading, feed, hNext⟩
      unfold advance
      simp only [hNext]
      rcases reading with _ | ⟨fault⟩ | ⟨entry⟩
      · exact ⟨_, _, fun world => ⟨world, rfl⟩⟩
      · dsimp only
        split
        · rcases ih { results with feed := feed } with
            ⟨fetched, later, hLater⟩
          exact ⟨fetched, later,
            fun world => hLater (warnSkipped fault world)⟩
        · exact ⟨_, _, fun world => ⟨world, rfl⟩⟩
      · dsimp only
        split
        · exact ih _
        · split
          · exact ih _
          · exact ⟨_, _, fun world => ⟨world, rfl⟩⟩

theorem bound_eq
    (results : Results Readings)
    (first second : World) :
    results.bound first = results.bound second := by
  unfold bound Feed.bound
  cases results.feed <;> rfl

/- Neither do the answers of a query on a list. -/
theorem exists_fetch
    (results : Results Readings) :
    ∃ fetched later, ∀ world : World,
      ∃ after,
        results.fetch world = (fetched, later, after) := by
  unfold fetch
  split
  · exact ⟨_, _, fun world => ⟨world, rfl⟩⟩
  · rcases exists_advance (results.bound {} + 1) results with
      ⟨fetched, later, hLater⟩
    refine ⟨fetched, later, ?_⟩
    intro world
    rw [results.bound_eq world {}]
    exact hLater world

/- Results end, or give the first entry that they promise. -/
theorem Promises.next
    {files : FileTree → Location → Prop}
    {results later : Results Readings}
    {entries : List Entry}
    {fetched : Fetch}
    {world after : World}
    (hPromises : results.Promises files entries none)
    (hWorld : files world.tree world.directory)
    (hFetch :
      results.fetch world = (fetched, later, after)) :
    fetched = .finished ∨
      ∃ entry more,
        entries = entry :: more ∧
        fetched = .entry (results.projection.apply entry) ∧
        later.Promises files more none := by
  by_cases hRemaining : results.remaining = some 0
  · rw [fetch_of_ended (.inr hRemaining)] at hFetch
    cases hFetch
    exact .inl rfl
  · have hDelivers :=
      fetch_of_promises hPromises hRemaining hWorld
    rw [hFetch] at hDelivers
    cases hDelivers with
    | entry hMore => exact .inr ⟨_, _, rfl, rfl, hMore⟩
    | ending => exact .inl rfl

end Results

end TreeKeeper
