import TreeKeeper.Regex.Basic

/-
  The matcher and the matches of an expression.  The places
  that the matcher reaches are exactly those that matches
  lead to.  A text of `n` characters has no more than `n`
  rounds of a repetition that get ahead, so the number of
  rounds may be cut down to one more than that.

  Key definitions include:
    * `Regex.Rounds`

  Main declarations:
    * `Regex.matches_repeated_iff`
    * `Regex.Rounds.resize`
    * `Regex.mem_reach_iff`
    * `Regex.search_eq_true_iff`
-/

------------------------------------------------------------
-- Places
------------------------------------------------------------

namespace TreeKeeper

namespace Regex

variable {text : Array Char}
variable {r : Regex}

theorem Matches.le
    {i j : Nat}
    (hMatch : Matches text r i j) : i ≤ j := by
  induction hMatch with
  | empty => exact Nat.le_refl _
  | one => exact Nat.le_succ _
  | anchor => exact Nat.le_refl _
  | seq _ _ ihFirst ihSecond =>
      exact Nat.le_trans ihFirst ihSecond
  | left _ ih => exact ih
  | right _ ih => exact ih
  | done => exact Nat.le_refl _
  | more _ _ _ ihRound ihRest =>
      exact Nat.le_trans ihRound ihRest
  | required _ _ ihRound ihRest =>
      exact Nat.le_trans ihRound ihRest

/- A match that starts in a text ends in it. -/
theorem Matches.le_size
    {i j : Nat}
    (hMatch : Matches text r i j)
    (hStart : i ≤ text.size) : j ≤ text.size := by
  induction hMatch with
  | empty => exact hStart
  | one found =>
      exact (Array.getElem?_eq_some_iff.1 found).1
  | anchor => exact hStart
  | seq _ _ ihFirst ihSecond =>
      exact ihSecond (ihFirst hStart)
  | left _ ih => exact ih hStart
  | right _ ih => exact ih hStart
  | done => exact hStart
  | more _ _ _ ihRound ihRest => exact ihRest (ihRound hStart)
  | required _ _ ihRound ihRest =>
      exact ihRest (ihRound hStart)

------------------------------------------------------------
-- Rounds
------------------------------------------------------------

/-
  `Rounds text r n i j` says that `n` matches of `r`, one
  behind the other, lead from place `i` to place `j`.
-/
inductive Rounds (text : Array Char) (r : Regex) :
    Nat → Nat → Nat → Prop where
| zero {i : Nat} : Rounds text r 0 i i
| succ {n i j k : Nat}
    (round : Matches text r i j)
    (rest : Rounds text r n j k) :
    Rounds text r (n + 1) i k

namespace Rounds

variable {m n i j k : Nat}

theorem le
    (hRounds : Rounds text r n i j) : i ≤ j := by
  induction hRounds with
  | zero => exact Nat.le_refl _
  | succ round _ ih => exact Nat.le_trans round.le ih

theorem le_size
    (hRounds : Rounds text r n i j)
    (hStart : i ≤ text.size) : j ≤ text.size := by
  induction hRounds with
  | zero => exact hStart
  | succ round _ ih => exact ih (round.le_size hStart)

theorem append
    (hFirst : Rounds text r m i j)
    (hSecond : Rounds text r n j k) :
    Rounds text r (m + n) i k := by
  induction hFirst with
  | zero => exact (Nat.zero_add n).symm ▸ hSecond
  | succ round _ ih =>
      rw [Nat.succ_add]
      exact .succ round (ih hSecond)

theorem exists_split
    (hRounds : Rounds text r (m + n) i k) :
    ∃ j, Rounds text r m i j ∧ Rounds text r n j k := by
  induction m generalizing i with
  | zero => exact ⟨i, .zero, Nat.zero_add n ▸ hRounds⟩
  | succ m ih =>
      rw [Nat.succ_add] at hRounds
      cases hRounds with
      | succ round rest =>
          rcases ih rest with ⟨j, hFirst, hSecond⟩
          exact ⟨j, .succ round hFirst, hSecond⟩

/- Rounds never leave places that no match leads out of. -/
theorem mem_of_closed
    {places : List Nat}
    (hClosed :
      ∀ i ∈ places, ∀ k, Matches text r i k → k ∈ places)
    (hRounds : Rounds text r n i j)
    (hi : i ∈ places) : j ∈ places := by
  induction hRounds with
  | zero => exact hi
  | succ round _ ih => exact ih (hClosed _ hi _ round)

/-
  More rounds than characters have an empty one among them,
  which may be left out or be done twice.
-/
theorem pred_and_succ
    (hRounds : Rounds text r (n + 1) i k)
    (hMany : k < i + (n + 1)) :
    Rounds text r n i k ∧ Rounds text r (n + 2) i k := by
  induction n generalizing i with
  | zero =>
      cases hRounds with
      | succ round rest =>
          cases rest with
          | zero =>
              obtain rfl : i = k := by
                have := round.le
                omega
              exact ⟨.zero, .succ round (.succ round .zero)⟩
  | succ n ih =>
      cases hRounds with
      | @succ _ _ j _ round rest =>
          have hLe := round.le
          by_cases hEmpty : i = j
          · subst hEmpty
            exact ⟨rest, .succ round (.succ round rest)⟩
          · have hLater : k < j + (n + 1) := by omega
            rcases ih rest hLater with ⟨hLess, hMore⟩
            exact ⟨.succ round hLess, .succ round hMore⟩

/-
  As long as there are more rounds than characters, their
  number does not matter.
-/
theorem resize
    (hRounds : Rounds text r n i j)
    (hMany : j < i + n)
    (hEnough : j ≤ i + m) : Rounds text r m i j := by
  obtain ⟨extra, rfl | rfl⟩ :
      ∃ extra, m = n + extra ∨ n = m + extra := by
    rcases Nat.le_total n m with hLe | hLe
    · exact ⟨m - n, Or.inl (by omega)⟩
    · exact ⟨n - m, Or.inr (by omega)⟩
  · clear hEnough
    induction extra with
    | zero => exact hRounds
    | succ extra ih =>
        obtain ⟨n', hn⟩ : ∃ n', n + extra = n' + 1 := by
          have := hRounds.le
          exact ⟨n + extra - 1, by omega⟩
        rw [hn] at ih
        have hMore := (ih.pred_and_succ (by omega)).2
        rw [← Nat.add_assoc, hn]
        exact hMore
  · induction extra with
    | zero => exact hRounds
    | succ extra ih =>
        rw [← Nat.add_assoc] at hRounds
        have hLess := (hRounds.pred_and_succ hMany).1
        by_cases hLast : j < i + (m + extra)
        · exact ih hLess hLast
        · obtain rfl : extra = 0 := by omega
          exact hLess

end Rounds

------------------------------------------------------------
-- Repetitions
------------------------------------------------------------

/-
  How many rounds a repetition may have.  A greatest number
  below the least one does not count.
-/
def Allows
    (least : Nat)
    (most : Option Nat)
    (n : Nat) : Prop :=
  least ≤ n ∧ ∀ m ∈ most, n ≤ max least m

theorem exists_rounds_of_repeated
    {s : Regex}
    {i j : Nat}
    (hMatch : Matches text s i j) :
    ∀ {r : Regex} {least : Nat} {most : Option Nat},
      s = .repeated r least most →
      ∃ n, Allows least most n ∧ Rounds text r n i j := by
  induction hMatch with
  | @done r most i =>
      rintro _ _ _ ⟨⟩
      exact ⟨0, ⟨Nat.le_refl 0, fun _ _ => Nat.zero_le _⟩,
        .zero⟩
  | @more r most i j k round rest allowed _ ihRest =>
      rintro _ _ _ ⟨⟩
      rcases ihRest rfl with ⟨n, ⟨_, hMost⟩, hRounds⟩
      refine ⟨n + 1, ⟨Nat.zero_le _, ?_⟩, .succ round hRounds⟩
      rintro m rfl
      have := hMost (m - 1) rfl
      have : m ≠ 0 := fun hZero => allowed (hZero ▸ rfl)
      omega
  | @required r least most i j k round rest _ ihRest =>
      rintro _ _ _ ⟨⟩
      rcases ihRest rfl with ⟨n, ⟨hLeast, hMost⟩, hRounds⟩
      refine ⟨n + 1, ⟨Nat.succ_le_succ hLeast, ?_⟩,
        .succ round hRounds⟩
      rintro m rfl
      have := hMost (m - 1) rfl
      omega
  | _ =>
      intro _ _ _ hRepeated
      cases hRepeated

theorem repeated_of_rounds
    {least n i j : Nat}
    {most : Option Nat}
    (hRounds : Rounds text r n i j)
    (hAllows : Allows least most n) :
    Matches text (.repeated r least most) i j := by
  induction hRounds generalizing least most with
  | zero =>
      obtain rfl := Nat.le_zero.1 hAllows.1
      exact .done
  | @succ n i j k round rest ih =>
      rcases hAllows with ⟨hLeast, hMost⟩
      cases least with
      | zero =>
          refine .more round (ih ⟨Nat.zero_le _, ?_⟩) ?_
          · rintro m hm
            rcases Option.map_eq_some_iff.1 hm with ⟨m', hm', rfl⟩
            have := hMost m' hm'
            omega
          · rintro rfl
            have := hMost 0 rfl
            omega
      | succ least =>
          refine .required round
            (ih ⟨Nat.le_of_succ_le_succ hLeast, ?_⟩)
          rintro m hm
          rcases Option.map_eq_some_iff.1 hm with ⟨m', hm', rfl⟩
          have := hMost m' hm'
          omega

/- A repetition matches what so many rounds match. -/
theorem matches_repeated_iff
    {least i j : Nat}
    {most : Option Nat} :
    Matches text (.repeated r least most) i j ↔
      ∃ n, Allows least most n ∧ Rounds text r n i j := by
  constructor
  · exact fun hMatch => exists_rounds_of_repeated hMatch rfl
  · rintro ⟨n, hAllows, hRounds⟩
    exact repeated_of_rounds hRounds hAllows

------------------------------------------------------------
-- Sets Of Places
------------------------------------------------------------

theorem mem_union
    {left right : List Nat}
    {i : Nat} :
    i ∈ union left right ↔ i ∈ left ∨ i ∈ right := by
  unfold union without
  by_cases hLeft : i ∈ left <;> simp [hLeft]

theorem mem_distinct
    {places : List Nat}
    {i : Nat} : i ∈ distinct places ↔ i ∈ places := by
  have hFold (seen : List Nat) :
      i ∈ places.foldl
          (fun seen i => if seen.contains i then seen
            else seen ++ [i]) seen ↔
        i ∈ seen ∨ i ∈ places := by
    induction places generalizing seen with
    | nil => simp
    | cons place rest ih =>
        rw [List.foldl_cons, ih]
        by_cases hSeen : place ∈ seen
        · rw [if_pos (by simpa using hSeen), List.mem_cons]
          constructor
          · rintro (h | h)
            · exact Or.inl h
            · exact Or.inr (Or.inr h)
          · rintro (h | rfl | h)
            · exact Or.inl h
            · exact Or.inl hSeen
            · exact Or.inr h
        · rw [if_neg (by simpa using hSeen)]
          simp [or_assoc]
  unfold distinct
  rw [hFold]
  simp

/-
  Whether a step leads from any places of a text to those
  that one match leads to.
-/
def Steps
    (text : Array Char)
    (r : Regex)
    (step : List Nat → List Nat) : Prop :=
  ∀ places, (∀ i ∈ places, i ≤ text.size) →
    ∀ j, j ∈ step places ↔ ∃ i ∈ places, Matches text r i j

variable {step : List Nat → List Nat}

theorem Steps.le_size
    (hStep : Steps text r step)
    {places : List Nat}
    (hPlaces : ∀ i ∈ places, i ≤ text.size) :
    ∀ j ∈ step places, j ≤ text.size := by
  intro j hj
  rcases (hStep places hPlaces j).1 hj with ⟨i, hi, hMatch⟩
  exact hMatch.le_size (hPlaces i hi)

theorem mem_rounds_iff
    (hStep : Steps text r step)
    {n : Nat}
    {places : List Nat}
    (hPlaces : ∀ i ∈ places, i ≤ text.size)
    {j : Nat} :
    j ∈ rounds step n places ↔
      ∃ i ∈ places, Rounds text r n i j := by
  induction n generalizing places with
  | zero =>
      constructor
      · exact fun hj => ⟨j, hj, .zero⟩
      · rintro ⟨i, hi, hRounds⟩
        cases hRounds
        exact hi
  | succ n ih =>
      unfold rounds
      cases places with
      | nil => simp
      | cons place rest =>
          rw [List.isEmpty_cons, if_neg Bool.false_ne_true,
            ih (hStep.le_size hPlaces)]
          constructor
          · rintro ⟨k, hk, hRounds⟩
            rcases (hStep _ hPlaces k).1 hk with
              ⟨i, hi, hMatch⟩
            exact ⟨i, hi, .succ hMatch hRounds⟩
          · rintro ⟨i, hi, hRounds⟩
            cases hRounds with
            | succ round hRest =>
                exact ⟨_, (hStep _ hPlaces _).2 ⟨i, hi, round⟩,
                  hRest⟩

/- What is collected is reached from what was seen. -/
theorem exists_rounds_of_mem_collect
    (hStep : Steps text r step)
    {n : Nat}
    {seen frontier : List Nat}
    (hSeen : ∀ i ∈ seen, i ≤ text.size)
    (hFrontier : frontier ⊆ seen)
    {j : Nat}
    (hj : j ∈ collect step n seen frontier) :
    ∃ e ≤ n, ∃ i ∈ seen, Rounds text r e i j := by
  induction n generalizing seen frontier with
  | zero => exact ⟨0, Nat.le_refl 0, j, hj, .zero⟩
  | succ n ih =>
      have hPlaces : ∀ i ∈ frontier, i ≤ text.size :=
        fun i hi => hSeen i (hFrontier hi)
      unfold collect at hj
      dsimp only at hj
      split at hj
      · exact ⟨0, Nat.zero_le _, j, hj, .zero⟩
      · have hFresh :
            ∀ k ∈ without (step frontier) seen,
              ∃ i ∈ frontier, Matches text r i k :=
          fun k hk =>
            (hStep _ hPlaces k).1 (List.mem_filter.1 hk).1
        have hAll :
            ∀ i ∈ seen ++ without (step frontier) seen,
              i ≤ text.size := by
          intro i hi
          rcases List.mem_append.1 hi with hOld | hNew
          · exact hSeen i hOld
          · rcases hFresh i hNew with ⟨k, hk, hMatch⟩
            exact hMatch.le_size (hPlaces k hk)
        rcases ih hAll (List.subset_append_right _ _) hj with
          ⟨e, he, i, hi, hRounds⟩
        rcases List.mem_append.1 hi with hOld | hNew
        · exact ⟨e, Nat.le_succ_of_le he, i, hOld, hRounds⟩
        · rcases hFresh i hNew with ⟨k, hk, hMatch⟩
          exact ⟨e + 1, Nat.succ_le_succ he, k, hFrontier hk,
            .succ hMatch hRounds⟩

theorem subset_collect
    (n : Nat)
    (seen frontier : List Nat) :
    seen ⊆ collect step n seen frontier := by
  induction n generalizing seen frontier with
  | zero => exact List.Subset.refl _
  | succ n ih =>
      unfold collect
      dsimp only
      split
      · exact List.Subset.refl _
      · exact List.Subset.trans
          (List.subset_append_left _ _) (ih _ _)

/-
  Everything within so many rounds is collected.  What was
  seen before the frontier has had its round, so that its
  matches lead to places that were seen.
-/
theorem mem_collect_of_rounds
    (hStep : Steps text r step)
    {n e i j : Nat}
    {seen frontier : List Nat}
    (hPlaces : ∀ i ∈ frontier, i ≤ text.size)
    (hClosed :
      ∀ i ∈ seen, i ∈ frontier ∨
        ∀ k, Matches text r i k → k ∈ seen)
    (hRounds : Rounds text r e i j)
    (hLe : e ≤ n)
    (hi : i ∈ seen) :
    j ∈ collect step n seen frontier := by
  induction n generalizing seen frontier e i with
  | zero =>
      obtain rfl := Nat.le_zero.1 hLe
      cases hRounds
      exact hi
  | succ n ih =>
      -- A match from a place seen leads to one seen or fresh.
      have hNext :
          ∀ i ∈ seen, ∀ k, Matches text r i k →
            k ∈ seen ++ without (step frontier) seen := by
        intro i hi k hMatch
        rcases hClosed i hi with hFront | hOld
        · by_cases hk : k ∈ seen
          · exact List.mem_append_left _ hk
          · refine List.mem_append_right _
              (List.mem_filter.2 ⟨?_, by simpa using hk⟩)
            exact (hStep _ hPlaces k).2 ⟨i, hFront, hMatch⟩
        · exact List.mem_append_left _ (hOld k hMatch)
      unfold collect
      dsimp only
      split
      · rename_i hEmpty
        rw [List.isEmpty_iff.1 hEmpty,
          List.append_nil] at hNext
        exact hRounds.mem_of_closed hNext hi
      · cases hRounds with
        | zero =>
            exact subset_collect n _ _
              (List.mem_append_left _ hi)
        | succ round rest =>
            refine ih ?_ ?_ rest
              (Nat.le_of_succ_le_succ hLe)
              (hNext _ hi _ round)
            · intro k hk
              exact hStep.le_size hPlaces k
                (List.mem_filter.1 hk).1
            · intro k hk
              rcases List.mem_append.1 hk with hOld | hNew
              · exact Or.inr (hNext k hOld)
              · exact Or.inl hNew

/- The places within a number of rounds from some places. -/
theorem mem_collect_iff
    (hStep : Steps text r step)
    {n : Nat}
    {places : List Nat}
    (hPlaces : ∀ i ∈ places, i ≤ text.size)
    {j : Nat} :
    j ∈ collect step n places places ↔
      ∃ e ≤ n, ∃ i ∈ places, Rounds text r e i j := by
  constructor
  · exact exists_rounds_of_mem_collect hStep hPlaces
      (List.Subset.refl _)
  · rintro ⟨e, he, i, hi, hRounds⟩
    exact mem_collect_of_rounds hStep hPlaces
      (fun _ hk => Or.inl hk) hRounds he hi

------------------------------------------------------------
-- Matching
------------------------------------------------------------

/-
  How many rounds behind the least number the matcher tries,
  in a text with a number of places.
-/
def furtherRounds
    (limit least : Nat)
    (most : Option Nat) : Nat :=
  most.elim limit fun n => min (n - least) limit

/-
  The matcher does not try more rounds than there are places.
  It misses nothing by that, and finds nothing wrong.
-/
theorem exists_allowed_rounds_iff
    {least i j limit : Nat}
    {most : Option Nat}
    (hLimit : j < i + limit) :
    (∃ n, Allows least most n ∧ Rounds text r n i j) ↔
      ∃ e ≤ furtherRounds limit least most,
        Rounds text r (min least limit + e) i j := by
  constructor
  · rintro ⟨n, ⟨hLeast, hMost⟩, hRounds⟩
    by_cases hMany : limit ≤ least
    · rw [Nat.min_eq_right hMany]
      exact ⟨0, Nat.zero_le _,
        hRounds.resize (by omega) (by omega)⟩
    · rw [Nat.min_eq_left (by omega)]
      have hFurther :
          min (n - least) limit ≤
            furtherRounds limit least most := by
        cases most with
        | none => exact Nat.min_le_right _ _
        | some m =>
            have := hMost m rfl
            unfold furtherRounds
            dsimp only [Option.elim_some]
            omega
      refine ⟨min (n - least) limit, hFurther, ?_⟩
      by_cases hShort : n - least ≤ limit
      · rw [Nat.min_eq_left hShort, Nat.add_sub_of_le hLeast]
        exact hRounds
      · exact hRounds.resize (by omega) (by omega)
  · rintro ⟨e, he, hRounds⟩
    by_cases hMany : limit ≤ least
    · rw [Nat.min_eq_right hMany] at hRounds
      refine ⟨least, ⟨Nat.le_refl _, ?_⟩,
        hRounds.resize (by omega) (by omega)⟩
      exact fun m _ => Nat.le_max_left _ _
    · rw [Nat.min_eq_left (by omega)] at hRounds
      refine ⟨least + e, ⟨Nat.le_add_right _ _, ?_⟩, hRounds⟩
      rintro m rfl
      unfold furtherRounds at he
      dsimp only [Option.elim_some] at he
      omega

/-
  The matcher reaches exactly the places that repetitions lead
  to, if it does so for what is repeated.
-/
theorem mem_reach_repeated_iff
    {places : List Nat}
    {least j : Nat}
    {most : Option Nat}
    (hStep :
      Steps text r fun ps => distinct (reach text r ps))
    (hPlaces : ∀ i ∈ places, i ≤ text.size) :
    j ∈ reach text (.repeated r least most) places ↔
      ∃ i ∈ places,
        Matches text (.repeated r least most) i j := by
  have hReach :
      reach text (.repeated r least most) places =
        collect (fun ps => distinct (reach text r ps))
          (furtherRounds (text.size + 1) least most)
          (rounds (fun ps => distinct (reach text r ps))
            (min least (text.size + 1)) places)
          (rounds (fun ps => distinct (reach text r ps))
            (min least (text.size + 1)) places) := by
    cases most <;> rfl
  have hStart :
      ∀ k ∈ rounds (fun ps => distinct (reach text r ps))
          (min least (text.size + 1)) places,
        k ≤ text.size := by
    intro k hk
    rcases (mem_rounds_iff hStep hPlaces).1 hk with
      ⟨i, hi, hRounds⟩
    exact hRounds.le_size (hPlaces i hi)
  rw [hReach, mem_collect_iff hStep hStart]
  constructor
  · rintro ⟨e, he, k, hk, hRest⟩
    rcases (mem_rounds_iff hStep hPlaces).1 hk with
      ⟨i, hi, hFirst⟩
    have hEnd := hRest.le_size (hStart k hk)
    refine ⟨i, hi, matches_repeated_iff.2 ?_⟩
    exact (exists_allowed_rounds_iff (by omega)).2
      ⟨e, he, hFirst.append hRest⟩
  · rintro ⟨i, hi, hMatch⟩
    have hEnd := hMatch.le_size (hPlaces i hi)
    have hLimit : j < i + (text.size + 1) := by omega
    rcases (exists_allowed_rounds_iff hLimit).1
        (matches_repeated_iff.1 hMatch) with
      ⟨e, he, hRounds⟩
    rcases hRounds.exists_split with ⟨k, hFirst, hRest⟩
    exact ⟨e, he, k,
      (mem_rounds_iff hStep hPlaces).2 ⟨i, hi, hFirst⟩,
      hRest⟩

/-
  The matcher reaches exactly the places that matches lead to,
  by induction on the expression.
-/
theorem mem_reach_iff
    {places : List Nat}
    (hPlaces : ∀ i ∈ places, i ≤ text.size)
    {j : Nat} :
    j ∈ reach text r places ↔
      ∃ i ∈ places, Matches text r i j := by
  induction r generalizing places j with
  | empty =>
      constructor
      · exact fun hj => ⟨j, hj, .empty⟩
      · rintro ⟨i, hi, hMatch⟩
        cases hMatch
        exact hi
  | one accepts =>
      unfold reach
      rw [List.mem_filterMap]
      refine exists_congr fun i => and_congr_right fun _ => ?_
      constructor
      · intro hStep
        split at hStep
        · rename_i c hFound
          split at hStep
          · rename_i hAccepts
            cases hStep
            exact .one hFound hAccepts
          · exact nomatch hStep
        · exact nomatch hStep
      · intro hMatch
        cases hMatch with
        | one found accepted =>
            rw [found]
            exact if_pos accepted
  | anchor a =>
      unfold reach
      rw [List.mem_filter]
      constructor
      · rintro ⟨hj, hHolds⟩
        exact ⟨j, hj, .anchor hHolds⟩
      · rintro ⟨i, hi, hMatch⟩
        cases hMatch with
        | anchor holds => exact ⟨hi, holds⟩
  | seq r s ihFirst ihSecond =>
      have hBetween :
          ∀ k ∈ reach text r places, k ≤ text.size := by
        intro k hk
        rcases (ihFirst hPlaces).1 hk with ⟨i, hi, hMatch⟩
        exact hMatch.le_size (hPlaces i hi)
      unfold reach
      rw [ihSecond hBetween]
      constructor
      · rintro ⟨k, hk, hSecond⟩
        rcases (ihFirst hPlaces).1 hk with ⟨i, hi, hFirst⟩
        exact ⟨i, hi, .seq hFirst hSecond⟩
      · rintro ⟨i, hi, hMatch⟩
        cases hMatch with
        | @seq _ _ _ k _ first second =>
            exact ⟨k, (ihFirst hPlaces).2 ⟨i, hi, first⟩,
              second⟩
  | alt r s ihLeft ihRight =>
      unfold reach
      rw [mem_union, ihLeft hPlaces, ihRight hPlaces]
      constructor
      · rintro (⟨i, hi, hMatch⟩ | ⟨i, hi, hMatch⟩)
        · exact ⟨i, hi, .left hMatch⟩
        · exact ⟨i, hi, .right hMatch⟩
      · rintro ⟨i, hi, hMatch⟩
        cases hMatch with
        | left side => exact Or.inl ⟨i, hi, side⟩
        | right side => exact Or.inr ⟨i, hi, side⟩
  | repeated r least most ih =>
      exact mem_reach_repeated_iff
        (fun ps hPs k => mem_distinct.trans (ih hPs)) hPlaces

/- A search succeeds if some part of the text matches. -/
theorem search_eq_true_iff
    {text : String} :
    r.search text = true ↔
      ∃ i j, i ≤ text.toList.length ∧
        Matches text.toList.toArray r i j := by
  have hPlaces :
      ∀ i ∈ List.range (text.toList.toArray.size + 1),
        i ≤ text.toList.toArray.size :=
    fun i hi => Nat.le_of_lt_succ (List.mem_range.1 hi)
  unfold search
  dsimp only
  rw [Bool.not_eq_true', List.isEmpty_eq_false_iff_exists_mem]
  constructor
  · rintro ⟨j, hj⟩
    rcases (mem_reach_iff hPlaces).1 hj with ⟨i, hi, hMatch⟩
    exact ⟨i, j, hPlaces i hi, hMatch⟩
  · rintro ⟨i, j, hi, hMatch⟩
    exact ⟨j, (mem_reach_iff hPlaces).2
      ⟨i, List.mem_range.2 (Nat.lt_succ_of_le hi), hMatch⟩⟩

end Regex

end TreeKeeper
