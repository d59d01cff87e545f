import TreeKeeper.Entry.Order

/-
  The order of sorted entries.  One entry comes before another
  one if the first key that tells them apart says so, and
  entries that no key tells apart stay in the order in which
  they came.  There is just one such order.

  Key definitions include:
    * `SortKey.Favors`
    * `Entry.ComesBefore`
    * `Entry.Ties`
    * `Entry.IsSortOf`

  Main declarations:
    * `Entry.compareByAll_eq_lt_iff`
    * `Entry.compareByAll_eq_eq_iff`
    * `Entry.eq_of_same_ties`
    * `Entry.isSortOf_iff`
-/

------------------------------------------------------------
-- Orders Of Entries
------------------------------------------------------------

namespace TreeKeeper

/-
  Whether a key puts one entry in front of another one: the
  lesser one, or the greater one if the key is descending.
-/
def SortKey.Favors
    (key : SortKey)
    (left right : Entry) : Prop :=
  Entry.compareBy key.field left right =
    if key.ascending then .lt else .gt

namespace Entry

/- Whether no key tells two entries apart. -/
def Ties
    (keys : List SortKey)
    (left right : Entry) : Prop :=
  ∀ key ∈ keys, compareBy key.field left right = .eq

instance
    (keys : List SortKey)
    (left right : Entry) :
    Decidable (Ties keys left right) := by
  unfold Ties
  infer_instance

/-
  Whether the first key that tells two entries apart puts the
  first one in front of the second one.
-/
def ComesBefore
    (keys : List SortKey)
    (left right : Entry) : Prop :=
  ∃ tied key others,
    keys = tied ++ key :: others ∧
    Ties tied left right ∧
    key.Favors left right

/-
  Whether some entries are others in the order of keys, with
  those that tie in their old order.
-/
structure IsSortOf
    (keys : List SortKey)
    (entries ordered : List Entry) : Prop where
  perm : ordered.Perm entries
  ascends :
    ordered.Pairwise fun left right =>
      ¬ ComesBefore keys right left
  stable :
    ∀ entry,
      ordered.filter (Ties keys entry ·) =
        entries.filter (Ties keys entry ·)

------------------------------------------------------------
-- Comparisons
------------------------------------------------------------

/- Every field orders entries by a value of them. -/
instance transCmp_compareBy
    (field : Field) :
    Std.TransCmp (compareBy field) := by
  have hBy : ∀ {β : Type} [Ord β] [Std.TransOrd β]
      (value : Entry → β), Std.TransCmp (compareOn value) :=
    fun _ => inferInstance
  cases field with
  | name => exact hBy name
  | path => exact hBy path
  | kind => exact hBy fun e => e.stat.kind.letter
  | size => exact hBy fun e => e.stat.size
  | blocks => exact hBy fun e => e.stat.blocks
  | ino => exact hBy fun e => e.stat.ino
  | atime => exact hBy fun e => e.stat.atime
  | mtime => exact hBy fun e => e.stat.mtime
  | ctime => exact hBy fun e => e.stat.ctime
  | symlink => exact hBy fun _ => 0
  | mode => exact hBy fun _ => 0
  | uid => exact hBy fun _ => 0
  | gid => exact hBy fun _ => 0
  | nlink => exact hBy fun _ => 0
  | xattr name => exact hBy fun _ => 0

instance transCmp_compareByKey
    (key : SortKey) :
    Std.TransCmp (compareByKey key) := by
  have hSwap : ∀ left right,
      (compareBy key.field left right).swap =
        compareBy key.field right left :=
    fun _ _ => Std.OrientedCmp.eq_swap.symm
  unfold compareByKey
  simp only [hSwap]
  cases key.ascending with
  | true => exact transCmp_compareBy key.field
  | false =>
      exact inferInstanceAs
        (Std.TransCmp fun left right =>
          compareBy key.field right left)

instance transCmp_compareByAll
    (keys : List SortKey) :
    Std.TransCmp (compareByAll keys) := by
  induction keys with
  | nil =>
      exact inferInstanceAs
        (Std.TransCmp (compareOn fun _ : Entry => 0))
  | cons key keys ih =>
      exact inferInstanceAs
        (Std.TransCmp
          (compareLex (compareByKey key) (compareByAll keys)))

theorem compareByKey_eq_eq_iff
    {key : SortKey}
    {left right : Entry} :
    compareByKey key left right = .eq ↔
      compareBy key.field left right = .eq := by
  unfold compareByKey
  cases key.ascending with
  | true => rfl
  | false => exact Ordering.swap_eq_eq

theorem compareByKey_eq_lt_iff
    {key : SortKey}
    {left right : Entry} :
    compareByKey key left right = .lt ↔
      key.Favors left right := by
  unfold compareByKey SortKey.Favors
  cases key.ascending with
  | true => rfl
  | false => exact Ordering.swap_eq_lt

/- Entries that tie are equal in the order by all keys. -/
theorem compareByAll_eq_eq_iff
    {keys : List SortKey}
    {left right : Entry} :
    compareByAll keys left right = .eq ↔
      Ties keys left right := by
  induction keys with
  | nil => exact ⟨fun _ => List.forall_mem_nil _, fun _ => rfl⟩
  | cons key keys ih =>
      unfold Ties at ih ⊢
      rw [compareByAll, Ordering.then_eq_eq,
        compareByKey_eq_eq_iff, ih, List.forall_mem_cons]

theorem comesBefore_cons_iff
    {key : SortKey}
    {keys : List SortKey}
    {left right : Entry} :
    ComesBefore (key :: keys) left right ↔
      key.Favors left right ∨
        compareBy key.field left right = .eq ∧
          ComesBefore keys left right := by
  constructor
  · rintro ⟨tied, decisive, others, hKeys, hTies, hFavors⟩
    cases tied with
    | nil =>
        cases hKeys
        exact .inl hFavors
    | cons first tied =>
        cases hKeys
        rcases List.forall_mem_cons.1 hTies with
          ⟨hFirst, hRest⟩
        exact .inr ⟨hFirst, tied, decisive, others, rfl,
          hRest, hFavors⟩
  · rintro (hFavors | ⟨hEqual, hComes⟩)
    · exact ⟨[], key, keys, rfl, List.forall_mem_nil _,
        hFavors⟩
    · rcases hComes with
        ⟨tied, decisive, others, rfl, hTies, hFavors⟩
      exact ⟨key :: tied, decisive, others, rfl,
        List.forall_mem_cons.2 ⟨hEqual, hTies⟩, hFavors⟩

/- The order by all keys is that of the first to decide. -/
theorem compareByAll_eq_lt_iff
    {keys : List SortKey}
    {left right : Entry} :
    compareByAll keys left right = .lt ↔
      ComesBefore keys left right := by
  induction keys with
  | nil =>
      constructor
      · exact nofun
      · rintro ⟨tied, key, others, hKeys, _⟩
        exact absurd hKeys (by simp)
  | cons key keys ih =>
      rw [compareByAll, Ordering.then_eq_lt,
        compareByKey_eq_lt_iff, compareByKey_eq_eq_iff, ih,
        comesBefore_cons_iff]

theorem mayPrecede_iff
    {keys : List SortKey}
    {left right : Entry} :
    mayPrecede keys left right = true ↔
      ¬ ComesBefore keys right left := by
  unfold mayPrecede
  rw [bne_iff_ne, ne_eq, Std.OrientedCmp.gt_iff_lt,
    compareByAll_eq_lt_iff]

theorem Ties.refl
    (keys : List SortKey)
    (entry : Entry) :
    Ties keys entry entry :=
  compareByAll_eq_eq_iff.1 Std.ReflCmp.compare_self

theorem Ties.trans
    {keys : List SortKey}
    {first second third : Entry}
    (hFirst : Ties keys first second)
    (hSecond : Ties keys second third) :
    Ties keys first third := by
  rw [← compareByAll_eq_eq_iff] at hFirst hSecond ⊢
  exact Std.TransCmp.eq_trans hFirst hSecond

theorem Ties.symm
    {keys : List SortKey}
    {left right : Entry}
    (hTies : Ties keys left right) :
    Ties keys right left := by
  rw [← compareByAll_eq_eq_iff] at hTies ⊢
  exact Std.OrientedCmp.eq_comm.1 hTies

/- Neighbours that do not tie can change places. -/
theorem filter_ties_swap
    {keys : List SortKey}
    {first second : Entry}
    (hApart : ¬ Ties keys first second)
    (entry : Entry)
    (rest : List Entry) :
    (first :: second :: rest).filter (Ties keys entry ·) =
      (second :: first :: rest).filter
        (Ties keys entry ·) := by
  by_cases hFirst : Ties keys entry first
  · have hSecond : ¬ Ties keys entry second := by
      intro hTies
      exact hApart (hFirst.symm.trans hTies)
    simp [hFirst, hSecond]
  · simp [List.filter_cons, hFirst]

theorem not_comesBefore_self
    (keys : List SortKey)
    (entry : Entry) :
    ¬ ComesBefore keys entry entry := by
  have hSelf : compareByAll keys entry entry = .eq :=
    Std.ReflCmp.compare_self
  rw [← compareByAll_eq_lt_iff, hSelf]
  exact nofun

/- Entries tie if none of them comes before the other one. -/
theorem ties_of_not_comesBefore
    {keys : List SortKey}
    {left right : Entry}
    (hLeft : ¬ ComesBefore keys left right)
    (hRight : ¬ ComesBefore keys right left) :
    Ties keys left right := by
  rw [← compareByAll_eq_lt_iff] at hLeft hRight
  rw [← Std.OrientedCmp.gt_iff_lt] at hRight
  rw [← compareByAll_eq_eq_iff]
  cases hOrder : compareByAll keys left right with
  | lt => exact absurd hOrder hLeft
  | eq => rfl
  | gt => exact absurd hOrder hRight

------------------------------------------------------------
-- Sorting
------------------------------------------------------------

theorem mayPrecede_trans
    (keys : List SortKey)
    (first second third : Entry)
    (hFirst : mayPrecede keys first second = true)
    (hSecond : mayPrecede keys second third = true) :
    mayPrecede keys first third = true := by
  unfold mayPrecede at hFirst hSecond ⊢
  rw [bne_iff_ne, ne_eq, ← Ordering.isLE_iff_ne_gt]
    at hFirst hSecond ⊢
  exact Std.TransCmp.isLE_trans hFirst hSecond

theorem mayPrecede_total
    (keys : List SortKey)
    (left right : Entry) :
    (mayPrecede keys left right ||
      mayPrecede keys right left) = true := by
  unfold mayPrecede
  have hSwap :
      compareByAll keys right left =
        (compareByAll keys left right).swap :=
    Std.OrientedCmp.eq_swap
  rw [hSwap]
  cases compareByAll keys left right <;> rfl

/-
  What ties with an entry is in order already, and is still
  there, in this order, when everything is sorted.
-/
theorem filter_sortBy
    (keys : List SortKey)
    (entries : List Entry)
    (entry : Entry) :
    (sortBy keys entries).filter (Ties keys entry ·) =
      entries.filter (Ties keys entry ·) := by
  have hPerm := List.mergeSort_perm entries (mayPrecede keys)
  have hOrdered :
      (entries.filter (Ties keys entry ·)).Pairwise
        fun left right => mayPrecede keys left right = true := by
    rw [List.pairwise_filter]
    apply List.pairwise_of_forall
    intro left right hLeft hRight
    have hTies : Ties keys left right :=
      (of_decide_eq_true hLeft).symm.trans
        (of_decide_eq_true hRight)
    rw [← compareByAll_eq_eq_iff] at hTies
    unfold mayPrecede
    rw [hTies]
    rfl
  have hKept :
      (entries.filter (Ties keys entry ·)).Sublist
        (sortBy keys entries) :=
    List.sublist_mergeSort (mayPrecede_trans keys)
      (mayPrecede_total keys) hOrdered List.filter_sublist
  have hFiltered := hKept.filter (Ties keys entry ·)
  rw [List.filter_filter] at hFiltered
  simp only [Bool.and_self] at hFiltered
  exact (hFiltered.eq_of_length
    (hPerm.filter _).length_eq.symm).symm

theorem isSortOf_sortBy
    (keys : List SortKey)
    (entries : List Entry) :
    IsSortOf keys entries (sortBy keys entries) where
  perm := List.mergeSort_perm entries (mayPrecede keys)
  ascends :=
    (List.pairwise_mergeSort (mayPrecede_trans keys)
      (mayPrecede_total keys) entries).imp mayPrecede_iff.1
  stable := filter_sortBy keys entries

/- Nothing in an order comes before its first entry. -/
theorem not_comesBefore_head
    {keys : List SortKey}
    {head other : Entry}
    {rest : List Entry}
    (hOrdered :
      (head :: rest).Pairwise fun left right =>
        ¬ ComesBefore keys right left)
    (hOther : other ∈ head :: rest) :
    ¬ ComesBefore keys other head := by
  rcases List.mem_cons.1 hOther with rfl | hRest
  · exact not_comesBefore_self keys other
  · exact (List.pairwise_cons.1 hOrdered).1 other hRest

/-
  Two orders of the same entries are equal: their first
  entries tie, so each of them is the first one that ties.
-/
theorem eq_of_same_ties
    {keys : List SortKey}
    {first second : List Entry}
    (hPerm : first.Perm second)
    (hFirst :
      first.Pairwise fun left right =>
        ¬ ComesBefore keys right left)
    (hSecond :
      second.Pairwise fun left right =>
        ¬ ComesBefore keys right left)
    (hTies :
      ∀ entry,
        first.filter (Ties keys entry ·) =
          second.filter (Ties keys entry ·)) :
    first = second := by
  induction first generalizing second with
  | nil => exact hPerm.nil_eq
  | cons head rest ih =>
      cases second with
      | nil => exact hPerm.eq_nil
      | cons other others =>
          have hTie : Ties keys head other :=
            ties_of_not_comesBefore
              (not_comesBefore_head hSecond
                (hPerm.mem_iff.1 List.mem_cons_self))
              (not_comesBefore_head hFirst
                (hPerm.mem_iff.2 List.mem_cons_self))
          have hHeads := hTies head
          rw [List.filter_cons, List.filter_cons,
            if_pos (decide_eq_true (Ties.refl keys head)),
            if_pos (decide_eq_true hTie)] at hHeads
          rcases List.cons.inj hHeads with ⟨rfl, _⟩
          rw [ih ((List.perm_cons head).1 hPerm)
            hFirst.of_cons hSecond.of_cons]
          intro entry
          have hAll := hTies entry
          rw [List.filter_cons, List.filter_cons] at hAll
          split at hAll
          · exact (List.cons.inj hAll).2
          · exact hAll

/- Sorting gives the only order of entries by the keys. -/
theorem isSortOf_iff
    {keys : List SortKey}
    {entries ordered : List Entry} :
    IsSortOf keys entries ordered ↔
      ordered = sortBy keys entries := by
  have hSorted := isSortOf_sortBy keys entries
  constructor
  · intro hOrdered
    apply eq_of_same_ties
      (hOrdered.perm.trans hSorted.perm.symm)
      hOrdered.ascends hSorted.ascends
    intro entry
    rw [hOrdered.stable, hSorted.stable]
  · rintro rfl
    exact hSorted

/- Without keys all entries stay where they are. -/
theorem sortBy_nil
    (entries : List Entry) :
    sortBy [] entries = entries := by
  refine (isSortOf_iff.1 ⟨.refl entries, ?_, fun _ => rfl⟩).symm
  apply List.pairwise_of_forall
  rintro left right ⟨tied, key, others, hKeys, _⟩
  exact absurd hKeys (by simp)

end Entry

end TreeKeeper
