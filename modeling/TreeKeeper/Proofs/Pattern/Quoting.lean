import TreeKeeper.Proofs.Pattern.Translation

/-
  Globs with a backslash in front of each character.  They
  stand for the quoted text itself, apart from the two
  characters that are anchors in an expression: a caret and a
  dollar sign lose their backslash and are read as anchors,
  which no text holds.

  Key definitions include:
    * `Glob.quote`
    * `Glob.isAnchor`
    * `Glob.HasOuterAnchors`
    * `Glob.quoted`

  Main declarations:
    * `Glob.readAs_quote`
    * `Glob.matchesAll_quoted_iff`
    * `Glob.matchesText_quote_iff`
-/

------------------------------------------------------------
-- Quoted Words
------------------------------------------------------------

namespace TreeKeeper

namespace Glob

open Regex

/- A backslash in front of each character of a word. -/
def quote (word : String) : String :=
  String.ofList (word.toList.flatMap fun c => ['\\', c])

/- Whether a character is an anchor in expressions. -/
def isAnchor (c : Char) : Bool :=
  c == '^' || c == '$'

/-
  Whether no character other than an anchor stands in front
  of a caret or behind a dollar sign.
-/
def HasOuterAnchors (word : List Char) : Prop :=
  word.Pairwise fun c d =>
    (d = '^' → isAnchor c = true) ∧
      (c = '$' → isAnchor d = true)

theorem hasOuterAnchors_caret_iff
    {word : List Char} :
    HasOuterAnchors ('^' :: word) ↔ HasOuterAnchors word := by
  unfold HasOuterAnchors
  rw [List.pairwise_cons]
  refine and_iff_right fun d _ => ⟨fun _ => rfl, ?_⟩
  exact fun hSame => absurd hSame (by decide)

theorem hasOuterAnchors_dollar_iff
    {word : List Char} :
    HasOuterAnchors ('$' :: word) ↔
      (∀ c ∈ word, isAnchor c = true) ∧
        HasOuterAnchors word := by
  unfold HasOuterAnchors
  rw [List.pairwise_cons]
  refine and_congr_left fun _ => forall₂_congr fun c _ => ?_
  exact ⟨fun hLater => hLater.2 rfl,
    fun hAnchor => ⟨fun _ => rfl, fun _ => hAnchor⟩⟩

theorem hasOuterAnchors_cons_iff
    {c : Char}
    {word : List Char}
    (hPlain : isAnchor c = false) :
    HasOuterAnchors (c :: word) ↔
      '^' ∉ word ∧ HasOuterAnchors word := by
  unfold HasOuterAnchors
  rw [List.pairwise_cons]
  refine and_congr_left fun _ => ?_
  constructor
  · intro hLater hMember
    rw [(hLater '^' hMember).1 rfl] at hPlain
    exact Bool.noConfusion hPlain
  · intro hNone d hd
    constructor
    · rintro rfl
      exact absurd hd hNone
    · rintro rfl
      exact Bool.noConfusion hPlain

/- What a character behind a backslash is read as. -/
def quoted (c : Char) : Regex :=
  if c = '^' then .anchor .textStart
  else if c = '$' then .anchor .textEnd
  else only c

@[simp]
theorem quoted_caret : quoted '^' = .anchor .textStart :=
  rfl

@[simp]
theorem quoted_dollar : quoted '$' = .anchor .textEnd :=
  rfl

theorem quoted_of_not_isAnchor
    {c : Char}
    (hPlain : isAnchor c = false) :
    quoted c = only c := by
  unfold isAnchor at hPlain
  rw [Bool.or_eq_false_iff, beq_eq_false_iff_ne,
    beq_eq_false_iff_ne] at hPlain
  unfold quoted
  rw [if_neg hPlain.1, if_neg hPlain.2]

------------------------------------------------------------
-- Reading
------------------------------------------------------------

/- What keeps no backslash is an anchor or stands for itself. -/
theorem readAs_unkept
    {c : Char}
    (hKeeps : ¬ keepsBackslash c = true)
    {rest : List Char} :
    ReadAs [c] [quoted c] rest := by
  by_cases hCaret : c = '^'
  · subst hCaret
    exact .caret
  · by_cases hDollar : c = '$'
    · subst hDollar
      exact ⟨1, Nat.le_refl 1, fun _ _ => rfl⟩
    · have hReserved : ¬ IsReserved c := by
        have hBrackets := hKeeps
        rw [keepsBackslash_iff] at hBrackets
        unfold IsReserved
        simp only [List.mem_cons, List.not_mem_nil, or_false,
          not_or] at hBrackets ⊢
        simp [hBrackets, hCaret, hDollar]
      rcases not_mem_marks hKeeps hReserved with
        ⟨hAtom, hOperator⟩
      unfold quoted
      rw [if_neg hCaret, if_neg hDollar]
      exact .literal hAtom hOperator

/- What keeps its backslash is no anchor. -/
theorem readAs_kept
    {c : Char}
    (hKeeps : keepsBackslash c = true)
    {rest : List Char} :
    ReadAs ['\\', c] [quoted c] rest := by
  have hPlain : isAnchor c = false := by
    unfold isAnchor
    rw [Bool.or_eq_false_iff, beq_eq_false_iff_ne,
      beq_eq_false_iff_ne]
    constructor
    · rintro rfl
      exact absurd hKeeps (by decide)
    · rintro rfl
      exact absurd hKeeps (by decide)
  rw [quoted_of_not_isAnchor hPlain]
  exact .escaped hKeeps

/- A quoted word is read character by character. -/
theorem readAs_quote
    (word : List Char)
    {rest : List Char} :
    ReadAs (translate (word.flatMap fun c => ['\\', c]))
      (word.map quoted) rest := by
  induction word with
  | nil => exact .nil
  | cons c word ih =>
      rw [List.flatMap_cons, List.cons_append,
        List.singleton_append, translate]
      split
      · rename_i hKeeps
        exact (readAs_kept hKeeps).append ih
      · rename_i hKeeps
        exact (readAs_unkept hKeeps).append ih

------------------------------------------------------------
-- Words In A Text
------------------------------------------------------------

variable {chars word : List Char}
variable {i : Nat}

/-
  Whether the rest of a text from a place on is a word without
  its anchors, which hold there.
-/
def StandsAt
    (chars : List Char)
    (i : Nat)
    (word : List Char) : Prop :=
  ('^' ∈ word → i = 0) ∧ HasOuterAnchors word ∧
    chars.drop i = word.filter (!isAnchor ·)

theorem filter_eq_nil_iff :
    word.filter (!isAnchor ·) = [] ↔
      ∀ c ∈ word, isAnchor c = true := by
  simp [List.filter_eq_nil_iff]

theorem filter_eq_self_iff :
    word.filter (!isAnchor ·) = word ↔
      '^' ∉ word ∧ '$' ∉ word := by
  rw [List.filter_eq_self]
  constructor
  · intro hPlain
    exact ⟨fun h => absurd (hPlain _ h) (by decide),
      fun h => absurd (hPlain _ h) (by decide)⟩
  · rintro ⟨hCaret, hDollar⟩ c hc
    have hOther : c ≠ '^' ∧ c ≠ '$' :=
      ⟨fun h => hCaret (h ▸ hc), fun h => hDollar (h ▸ hc)⟩
    simpa [isAnchor] using hOther

theorem hasOuterAnchors_of_plain
    (hPlain : '^' ∉ word ∧ '$' ∉ word) :
    HasOuterAnchors word := by
  refine List.pairwise_of_forall_mem_list fun c hc d hd => ?_
  constructor
  · rintro rfl
    exact absurd hd hPlain.1
  · rintro rfl
    exact absurd hc hPlain.2

theorem standsAt_nil_iff :
    StandsAt chars i [] ↔ chars.drop i = [] := by
  simp [StandsAt, HasOuterAnchors]

theorem standsAt_caret_iff :
    StandsAt chars i ('^' :: word) ↔
      i = 0 ∧ StandsAt chars i word := by
  have hFilter :
      ('^' :: word).filter (!isAnchor ·) =
        word.filter (!isAnchor ·) :=
    List.filter_cons_of_neg (by decide)
  unfold StandsAt
  rw [hasOuterAnchors_caret_iff, hFilter]
  constructor
  · rintro ⟨hStart, hRest⟩
    have hZero : i = 0 := hStart List.mem_cons_self
    exact ⟨hZero, fun _ => hZero, hRest⟩
  · rintro ⟨hZero, _, hRest⟩
    exact ⟨fun _ => hZero, hRest⟩

theorem standsAt_dollar_iff :
    StandsAt chars i ('$' :: word) ↔
      chars.drop i = [] ∧ StandsAt chars i word := by
  have hFilter :
      ('$' :: word).filter (!isAnchor ·) =
        word.filter (!isAnchor ·) :=
    List.filter_cons_of_neg (by decide)
  have hCaret : '^' ∈ '$' :: word ↔ '^' ∈ word := by
    simp
  unfold StandsAt
  rw [hasOuterAnchors_dollar_iff, hFilter, hCaret]
  constructor
  · rintro ⟨hStart, ⟨hWord, hOuter⟩, hDrop⟩
    exact ⟨hDrop.trans (filter_eq_nil_iff.2 hWord), hStart,
      hOuter, hDrop⟩
  · rintro ⟨hEnd, hStart, hOuter, hDrop⟩
    have hWord := filter_eq_nil_iff.1 (hDrop.symm.trans hEnd)
    exact ⟨hStart, ⟨hWord, hOuter⟩, hDrop⟩

/- Behind any other character no caret holds. -/
theorem standsAt_cons_iff
    {c : Char}
    (hPlain : isAnchor c = false) :
    StandsAt chars i (c :: word) ↔
      chars.drop i = c :: chars.drop (i + 1) ∧
        StandsAt chars (i + 1) word := by
  have hFilter :
      (c :: word).filter (!isAnchor ·) =
        c :: word.filter (!isAnchor ·) :=
    List.filter_cons_of_pos (by simp [hPlain])
  have hCaret : '^' ∈ c :: word ↔ '^' ∈ word := by
    rw [List.mem_cons, or_iff_right]
    rintro rfl
    exact Bool.noConfusion hPlain
  unfold StandsAt
  rw [hasOuterAnchors_cons_iff hPlain, hFilter, hCaret]
  constructor
  · rintro ⟨_, ⟨hNone, hOuter⟩, hDrop⟩
    have hRest := (getElem?_of_drop hDrop).2
    exact ⟨hRest ▸ hDrop, fun h => absurd h hNone, hOuter,
      hRest⟩
  · rintro ⟨hDrop, hStart, hOuter, hRest⟩
    have hNone : '^' ∉ word :=
      fun h => Nat.succ_ne_zero i (hStart h)
    exact ⟨fun h => absurd h hNone, ⟨hNone, hOuter⟩,
      hRest ▸ hDrop⟩

------------------------------------------------------------
-- Matching
------------------------------------------------------------

/- A quoted word matches up to the end where it stands. -/
theorem matchesAll_quoted_iff
    (hStart : i ≤ chars.length) :
    (∃ j, MatchesAll chars.toArray
        (word.map quoted ++ [.anchor .textEnd]) i j) ↔
      StandsAt chars i word := by
  induction word generalizing i with
  | nil =>
      rw [List.map_nil, List.nil_append, standsAt_nil_iff]
      exact exists_matchesAll_textEnd_iff hStart
  | cons c word ih =>
      rw [List.map_cons, List.cons_append]
      -- An anchor takes no character, so the place stays.
      by_cases hAnchor : c = '^' ∨ c = '$'
      · rcases hAnchor with rfl | rfl
        · rw [quoted_caret, standsAt_caret_iff, ← ih hStart]
          simp only [matchesAll_anchor_cons_iff,
            exists_and_left]
          exact and_congr_left fun _ => beq_iff_eq
        · rw [quoted_dollar, standsAt_dollar_iff,
            ← ih hStart, ← holds_textEnd_iff hStart]
          simp only [matchesAll_anchor_cons_iff,
            exists_and_left]
      · have hPlain : isAnchor c = false := by
          simpa [isAnchor] using hAnchor
        rw [quoted_of_not_isAnchor hPlain,
          standsAt_cons_iff hPlain]
        simp only [matchesAll_only_cons_iff, exists_and_left]
        exact and_congr_right fun hDrop =>
          ih (lt_length_of_drop hDrop)

------------------------------------------------------------
-- Whole Patterns
------------------------------------------------------------

/- A word without anchors stands for itself. -/
theorem standsAt_zero_iff
    {text : List Char} :
    StandsAt text 0 word ↔
      HasOuterAnchors word ∧
        text = word.filter (!isAnchor ·) := by
  unfold StandsAt
  rw [List.drop_zero]
  exact and_iff_right fun _ => rfl

/-
  A glob with a backslash in front of each character makes a
  pattern for the quoted word without its anchors, if these
  stand around all the rest, and for no text otherwise.  It
  stands for the word itself only if there are no anchors.
-/
theorem matchesText_quote_iff
    (word : String) :
    ∃ pattern,
      Pattern.ofSource? (toSource (quote word)) false =
        some pattern ∧
      (∀ text : String,
        pattern.matchesText text = true ↔
          HasOuterAnchors word.toList ∧
            text.toList = word.toList.filter (!isAnchor ·)) ∧
      ((∀ text : String,
          pattern.matchesText text = true ↔ text = word) ↔
        '^' ∉ word.toList ∧ '$' ∉ word.toList) := by
  have hBody :
      ReadAs (translate (quote word).toList)
        (word.toList.map quoted) ['\\', 'z'] := by
    unfold quote
    rw [String.toList_ofList]
    exact readAs_quote word.toList
  rcases exists_pattern_of_readAs hBody with
    ⟨pattern, hPattern, hMatches⟩
  have hStands (text : String) :
      pattern.matchesText text = true ↔
        HasOuterAnchors word.toList ∧
          text.toList = word.toList.filter (!isAnchor ·) := by
    rw [hMatches, matchesAll_quoted_iff (Nat.zero_le _),
      standsAt_zero_iff]
  refine ⟨pattern, hPattern, hStands, ?_⟩
  constructor
  · intro hAll
    have hSelf := ((hStands word).1 ((hAll word).2 rfl)).2
    exact filter_eq_self_iff.1 hSelf.symm
  · rintro hPlain text
    rw [hStands, filter_eq_self_iff.2 hPlain,
      and_iff_right (hasOuterAnchors_of_plain hPlain),
      String.toList_inj]

/- A quoted caret is not matched by the pattern for it. -/
theorem quote_caret_unmatched :
    ¬ ∀ word : String, ∃ pattern,
      Pattern.ofSource? (toSource (quote word)) false =
        some pattern ∧
      ∀ text : String,
        pattern.matchesText text = true ↔ text = word := by
  intro hAll
  rcases hAll "^" with ⟨pattern, hPattern, hMatches⟩
  have hEvaluated :
      (Pattern.ofSource? (toSource (quote "^")) false).map
        (·.matchesText "^") = some false := by
    decide +kernel
  rw [hPattern, Option.map_some, (hMatches "^").2 rfl]
    at hEvaluated
  exact Bool.noConfusion (Option.some.inj hEvaluated)

end Glob

end TreeKeeper
