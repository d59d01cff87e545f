import TreeKeeper.Text.Basic

/-
  Texts and their pieces.  Splitting gives back what was put
  together, no piece holds the separator, an ending that was
  appended is taken off again, and replacing a text replaces
  each of its occurrences.

  Key definitions include:
    * `Text.IsReplaced`

  Main declarations:
    * `Text.splitOn_line`
    * `Text.splitOn_joinWith`
    * `Text.joinWith_nil`
    * `Text.splitOn_append`
    * `Text.joinWith_splitOn`
    * `Text.not_mem_of_mem_splitOn`
    * `Text.stripBeginning_append`
    * `Text.stripEnding_append`
    * `Text.IsReplaced.mem_iff`
    * `Text.isReplaced_replace`
-/

------------------------------------------------------------
-- Splitting
------------------------------------------------------------

namespace TreeKeeper

namespace Text

variable {separator : Char}

/- A line without breaks is split off whole. -/
theorem splitOn_line
    {line : List Char}
    (hLine : separator ∉ line)
    (rest : List Char) :
    splitOn separator (line ++ separator :: rest) =
      line :: splitOn separator rest := by
  induction line with
  | nil =>
      rw [List.nil_append, splitOn, if_pos rfl]
  | cons c line ih =>
      rw [List.mem_cons, not_or] at hLine
      rw [List.cons_append, splitOn, if_neg (Ne.symm hLine.1),
        ih hLine.2]

/- A text without the separator is its only piece. -/
theorem splitOn_of_not_mem
    {text : List Char}
    (hText : separator ∉ text) :
    splitOn separator text = [text] := by
  induction text with
  | nil => rfl
  | cons c text ih =>
      rw [List.mem_cons, not_or] at hText
      rw [splitOn, if_neg (Ne.symm hText.1), ih hText.2]

/- Splitting gives back the pieces that were joined. -/
theorem splitOn_joinWith
    {pieces : List (List Char)}
    (hSome : pieces ≠ [])
    (hPieces : ∀ piece ∈ pieces, separator ∉ piece) :
    splitOn separator (joinWith [separator] pieces) =
      pieces := by
  induction pieces with
  | nil => exact absurd rfl hSome
  | cons piece pieces ih =>
      rcases List.forall_mem_cons.1 hPieces with
        ⟨hPiece, hLater⟩
      cases pieces with
      | nil => exact splitOn_of_not_mem hPiece
      | cons next pieces =>
          rw [joinWith, List.append_assoc,
            List.singleton_append, splitOn_line hPiece,
            ih (List.cons_ne_nil _ _) hLater]

/- Without a separator the pieces stand side by side. -/
theorem joinWith_nil
    (pieces : List (List Char)) :
    joinWith [] pieces = pieces.flatten := by
  induction pieces with
  | nil => rfl
  | cons piece pieces ih =>
      cases pieces with
      | nil => exact (List.append_nil piece).symm
      | cons next pieces =>
          rw [joinWith, ih, List.append_nil]
          rfl

theorem splitOn_ne_nil
    {text : List Char} :
    splitOn separator text ≠ [] := by
  cases text with
  | nil => exact List.cons_ne_nil _ _
  | cons c text =>
      unfold splitOn
      split
      · exact List.cons_ne_nil _ _
      · split <;> exact List.cons_ne_nil _ _

/- A separator ends the pieces of the text in front of it. -/
theorem splitOn_append
    (first second : List Char) :
    splitOn separator (first ++ separator :: second) =
      splitOn separator first ++ splitOn separator second := by
  induction first with
  | nil => simp [splitOn]
  | cons c first ih =>
      rw [List.cons_append, splitOn, splitOn, ih]
      split
      · rfl
      · rcases List.exists_cons_of_ne_nil splitOn_ne_nil with
          ⟨piece, pieces, hSplit⟩
        rw [hSplit]
        rfl

/- Joining gives back the text that was split. -/
theorem joinWith_splitOn
    {text : List Char} :
    joinWith [separator] (splitOn separator text) = text := by
  induction text with
  | nil => rfl
  | cons c text ih =>
      unfold splitOn
      split
      · rename_i hSeparator
        rcases List.exists_cons_of_ne_nil splitOn_ne_nil with
          ⟨piece, pieces, hSplit⟩
        rw [hSplit] at ih ⊢
        rw [joinWith, ih, hSeparator]
        rfl
      · split
        · rename_i hSplit
          exact absurd hSplit splitOn_ne_nil
        · rename_i piece pieces hSplit
          rw [hSplit] at ih
          rw [← ih]
          cases pieces with
          | nil => rfl
          | cons next pieces => rfl

/- No piece holds the separator. -/
theorem not_mem_of_mem_splitOn
    {text piece : List Char}
    (hPiece : piece ∈ splitOn separator text) :
    separator ∉ piece := by
  induction text generalizing piece with
  | nil =>
      rw [List.mem_singleton.1 hPiece]
      exact List.not_mem_nil
  | cons c text ih =>
      unfold splitOn at hPiece
      split at hPiece
      · rcases List.mem_cons.1 hPiece with rfl | hRest
        · exact List.not_mem_nil
        · exact ih hRest
      · rename_i hOther
        split at hPiece
        · rw [List.mem_singleton.1 hPiece, List.mem_singleton]
          exact Ne.symm hOther
        · rename_i first pieces hSplit
          rw [hSplit] at ih
          rcases List.mem_cons.1 hPiece with rfl | hRest
          · rw [List.mem_cons, not_or]
            exact ⟨Ne.symm hOther, ih List.mem_cons_self⟩
          · exact ih (List.mem_cons_of_mem _ hRest)

------------------------------------------------------------
-- Cutting At The Ends
------------------------------------------------------------

theorem stripBeginning_append
    (beginning text : List Char) :
    stripBeginning beginning (beginning ++ text) =
      some text := by
  induction beginning with
  | nil => rfl
  | cons c beginning ih =>
      simpa [stripBeginning] using ih

theorem stripEnding_append
    (text ending : List Char) :
    stripEnding ending (text ++ ending) = some text := by
  unfold stripEnding
  rw [List.reverse_append, stripBeginning_append,
    Option.map_some, List.reverse_reverse]

theorem eq_append_of_stripBeginning
    {beginning text rest : List Char}
    (h : stripBeginning beginning text = some rest) :
    text = beginning ++ rest := by
  induction beginning generalizing text with
  | nil =>
      cases h
      rfl
  | cons b beginning ih =>
      cases text with
      | nil => exact nomatch h
      | cons c text =>
          unfold stripBeginning at h
          split at h
          · rename_i hSame
            rw [hSame, ih h]
            rfl
          · exact nomatch h

------------------------------------------------------------
-- Replacing
------------------------------------------------------------

/-
  Whether a text with each occurrence of another one replaced
  is the result: what is left between the occurrences has no
  further one in it and stays as it is.
-/
def IsReplaced
    (old new text result : List Char) : Prop :=
  ∃ pieces : List (List Char),
    pieces ≠ [] ∧
    (∀ piece ∈ pieces, ¬ old <:+: piece) ∧
    text = joinWith old pieces ∧
    result = joinWith new pieces

theorem isReplaced_nil
    {old new : List Char}
    (hOld : old ≠ []) :
    IsReplaced old new [] [] := by
  refine ⟨[[]], List.cons_ne_nil _ _, ?_, rfl, rfl⟩
  intro piece hPiece hInside
  rw [List.mem_singleton.1 hPiece] at hInside
  exact hOld (List.infix_nil.1 hInside)

/- An occurrence in front of a text is replaced. -/
theorem IsReplaced.append
    {old new text result : List Char}
    (hOld : old ≠ [])
    (h : IsReplaced old new text result) :
    IsReplaced old new (old ++ text) (new ++ result) := by
  rcases h with ⟨pieces, hSome, hPieces, rfl, rfl⟩
  have hFirst : ¬ old <:+: [] :=
    fun hInside => hOld (List.infix_nil.1 hInside)
  refine ⟨[] :: pieces, List.cons_ne_nil _ _,
    List.forall_mem_cons.2 ⟨hFirst, hPieces⟩, ?_, ?_⟩
  · cases pieces with
    | nil => exact absurd rfl hSome
    | cons piece pieces => rfl
  · cases pieces with
    | nil => exact absurd rfl hSome
    | cons piece pieces => rfl

/- A character that begins no occurrence is kept. -/
theorem IsReplaced.cons
    {old new text result : List Char}
    {c : Char}
    (hNone : ¬ old <+: c :: text)
    (h : IsReplaced old new text result) :
    IsReplaced old new (c :: text) (c :: result) := by
  rcases h with ⟨pieces, hSome, hPieces, rfl, rfl⟩
  cases pieces with
  | nil => exact absurd rfl hSome
  | cons piece pieces =>
      have hText :
          ∀ cs : List Char,
            joinWith cs ((c :: piece) :: pieces) =
              c :: joinWith cs (piece :: pieces) := by
        intro cs
        cases pieces <;> rfl
      have hFront :
          c :: piece <+:
            c :: joinWith old (piece :: pieces) := by
        cases pieces with
        | nil => exact List.prefix_refl _
        | cons next pieces =>
            refine ⟨old ++ joinWith old (next :: pieces), ?_⟩
            simp [joinWith]
      rcases List.forall_mem_cons.1 hPieces with
        ⟨hPiece, hOthers⟩
      have hFirst : ¬ old <:+: c :: piece := by
        intro hInside
        rcases List.infix_cons_iff.1 hInside
          with hBegins | hLater
        · exact hNone (hBegins.trans hFront)
        · exact hPiece hLater
      exact ⟨(c :: piece) :: pieces, List.cons_ne_nil _ _,
        List.forall_mem_cons.2 ⟨hFirst, hOthers⟩,
        (hText old).symm, (hText new).symm⟩

theorem isReplaced_replaceFrom
    {old new : List Char}
    (hOld : old ≠ [])
    {fuel : Nat}
    {text : List Char}
    (hFuel : text.length < fuel) :
    IsReplaced old new text
      (replaceFrom old new fuel text) := by
  induction fuel generalizing text with
  | zero => omega
  | succ fuel ih =>
      cases text with
      | nil => exact isReplaced_nil hOld
      | cons c text =>
          unfold replaceFrom
          split
          · rename_i rest hStrip
            have hText := eq_append_of_stripBeginning hStrip
            have hShorter : rest.length < fuel := by
              have hLength := congrArg List.length hText
              have hSome := List.length_pos_iff.2 hOld
              rw [List.length_append] at hLength
              omega
            rw [hText]
            exact (ih hShorter).append hOld
          · rename_i hStrip
            refine (ih (Nat.lt_of_succ_lt_succ hFuel)).cons ?_
            rintro ⟨rest, hText⟩
            rw [← hText, stripBeginning_append] at hStrip
            exact nomatch hStrip

/- The separator stands in what has more than one piece. -/
theorem infix_joinWith_iff
    {separator : List Char}
    {pieces : List (List Char)}
    (hPieces : ∀ piece ∈ pieces, ¬ separator <:+: piece)
    (hSome : pieces ≠ []) :
    separator <:+: joinWith separator pieces ↔
      2 ≤ pieces.length := by
  match pieces, hSome with
  | [piece], _ =>
      have hNone := hPieces piece List.mem_cons_self
      simpa [joinWith] using hNone
  | piece :: next :: pieces, _ =>
      have hInside :
          separator <:+:
            joinWith separator (piece :: next :: pieces) :=
        ⟨piece, joinWith separator (next :: pieces), rfl⟩
      simpa using hInside

/-
  A joined text has the characters of its pieces and, if it
  has more than one of them, those of the separator.
-/
theorem mem_joinWith_iff
    {separator : List Char}
    {pieces : List (List Char)}
    {c : Char} :
    c ∈ joinWith separator pieces ↔
      (∃ piece ∈ pieces, c ∈ piece) ∨
        c ∈ separator ∧ 2 ≤ pieces.length := by
  induction pieces with
  | nil => simp [joinWith]
  | cons piece pieces ih =>
      cases pieces with
      | nil => simp [joinWith]
      | cons next pieces =>
          rw [joinWith, List.mem_append, List.mem_append, ih]
          simp only [List.mem_cons, List.length_cons]
          grind

/-
  A character that the replaced text does not have is in the
  result if it was there before, or if it comes with what
  takes the place of an occurrence.
-/
theorem IsReplaced.mem_iff
    {old new text result : List Char}
    {c : Char}
    (hOther : c ∉ old)
    (h : IsReplaced old new text result) :
    c ∈ result ↔ c ∈ text ∨ c ∈ new ∧ old <:+: text := by
  rcases h with ⟨pieces, hSome, hPieces, rfl, rfl⟩
  rw [mem_joinWith_iff, mem_joinWith_iff,
    infix_joinWith_iff hPieces hSome]
  simp only [hOther, false_and, or_false]

/- Replacing a text replaces each of its occurrences. -/
theorem isReplaced_replace
    {old : String}
    (hOld : old.toList ≠ [])
    (text new : String) :
    IsReplaced old.toList new.toList text.toList
      (replace text old new).toList := by
  unfold replace
  rw [String.toList_ofList]
  exact isReplaced_replaceFrom hOld (Nat.lt_succ_self _)

end Text

end TreeKeeper
