import TreeKeeper.Pattern.Glob
import TreeKeeper.Proofs.Regex.Matching
import TreeKeeper.Proofs.Text.Pieces

/-
  Globs and their translation.  The source that a glob is
  translated to can be read, and the pattern matches exactly
  the texts that the glob denotes, as long as the glob has no
  brackets and none of the characters that are anchors in an
  expression.

  Key definitions include:
    * `Glob.Denotes`
    * `Glob.pieces`
    * `Regex.MatchesAll`
    * `Glob.ReadAs`
    * `Glob.enclosed`

  Main declarations:
    * `Glob.readAs_translate`
    * `Glob.compile?_of_readAs`
    * `Glob.matchesAll_pieces_iff`
    * `Glob.search_enclosed_iff`
    * `Glob.exists_pattern_of_readAs`
    * `Glob.matchesText_toSource_iff`
-/

------------------------------------------------------------
-- What Globs Denote
------------------------------------------------------------

namespace TreeKeeper

namespace Glob

/-
  `Denotes glob text` says that the whole text is one of those
  that the glob stands for.  Wildcards stay in one line, and a
  backslash takes the meaning from the character behind it.
-/
inductive Denotes : List Char → List Char → Prop where
| nil : Denotes [] []
| run {glob passed text : List Char}
    (inLine : '\n' ∉ passed)
    (rest : Denotes glob text) :
    Denotes ('*' :: glob) (passed ++ text)
| any {glob text : List Char} {c : Char}
    (inLine : c ≠ '\n')
    (rest : Denotes glob text) :
    Denotes ('?' :: glob) (c :: text)
| escaped {glob text : List Char} {c : Char}
    (rest : Denotes glob text) :
    Denotes ('\\' :: c :: glob) (c :: text)
| loneBackslash : Denotes ['\\'] ['\\']
| literal {glob text : List Char} {c : Char}
    (plain : c ∉ ['*', '?', '\\'])
    (rest : Denotes glob text) :
    Denotes (c :: glob) (c :: text)

/- Whether a character is an anchor or a bracket. -/
def IsReserved (c : Char) : Prop :=
  c ∈ ['[', ']', '^', '$']

end Glob

------------------------------------------------------------
-- Sequences Of Expressions
------------------------------------------------------------

namespace Regex

variable {text : Array Char}

/- Whether expressions match one behind the other. -/
def MatchesAll
    (text : Array Char) : List Regex → Nat → Nat → Prop
| [], i, j => i = j
| r :: rs, i, j =>
    ∃ k, Matches text r i k ∧ MatchesAll text rs k j

theorem matches_foldl_iff
    {r : Regex}
    {rs : List Regex}
    {i j : Nat} :
    Matches text (rs.foldl .seq r) i j ↔
      MatchesAll text (r :: rs) i j := by
  induction rs generalizing r with
  | nil => simp [MatchesAll]
  | cons s rs ih =>
      rw [List.foldl_cons, ih]
      constructor
      · rintro ⟨k, hMatch, hRest⟩
        cases hMatch with
        | seq first second => exact ⟨_, first, _, second, hRest⟩
      · rintro ⟨_, hFirst, k, hSecond, hRest⟩
        exact ⟨k, .seq hFirst hSecond, hRest⟩

/- Pieces that hold expressions make their sequence. -/
theorem sequenceOf_of_pieces
    (r : Regex)
    (rs : List Regex) :
    sequenceOf ((r :: rs).reverse.map some) =
      rs.foldl .seq r := by
  unfold sequenceOf
  rw [List.map_reverse, List.reverse_reverse,
    List.filterMap_map]
  simp

theorem matches_one_iff
    {accepts : Char → Bool}
    {i j : Nat} :
    Matches text (.one accepts) i j ↔
      ∃ c, text[i]? = some c ∧ accepts c = true ∧
        j = i + 1 := by
  constructor
  · intro hMatch
    cases hMatch with
    | one found accepted => exact ⟨_, found, accepted, rfl⟩
  · rintro ⟨c, hFound, hAccepted, rfl⟩
    exact .one hFound hAccepted

theorem matches_anchor_iff
    {a : Anchor}
    {i j : Nat} :
    Matches text (.anchor a) i j ↔
      a.holds text i = true ∧ j = i := by
  constructor
  · intro hMatch
    cases hMatch with
    | anchor holds => exact ⟨holds, rfl⟩
  · rintro ⟨hHolds, rfl⟩
    exact .anchor hHolds

/- The expression for a character that ends no line. -/
def inLine : Regex :=
  .one fun c => !(c == '\n')

/- The expression for one given character. -/
def only (c : Char) : Regex :=
  .one (CharacterClass.single c)

/- A text goes on with the character at a place. -/
theorem drop_eq_cons
    {chars : List Char}
    {i : Nat}
    {c : Char}
    (hFound : chars.toArray[i]? = some c) :
    chars.drop i = c :: chars.drop (i + 1) := by
  rw [List.getElem?_toArray] at hFound
  rcases List.getElem?_eq_some_iff.1 hFound with ⟨hi, rfl⟩
  exact List.drop_eq_getElem_cons hi

/- The character at a place of a text that goes on with it. -/
theorem getElem?_of_drop
    {chars rest : List Char}
    {i : Nat}
    {c : Char}
    (hDrop : chars.drop i = c :: rest) :
    chars.toArray[i]? = some c ∧ chars.drop (i + 1) = rest := by
  have hHead := congrArg (fun l => l[0]?) hDrop
  have hTail := congrArg List.tail hDrop
  rw [List.tail_drop] at hTail
  rw [List.getElem?_toArray]
  refine ⟨?_, hTail⟩
  simpa using hHead

/- An anchor in front holds where the others begin. -/
theorem matchesAll_anchor_cons_iff
    {a : Anchor}
    {rs : List Regex}
    {i j : Nat} :
    MatchesAll text (.anchor a :: rs) i j ↔
      a.holds text i = true ∧ MatchesAll text rs i j := by
  constructor
  · rintro ⟨k, hFirst, hRest⟩
    rcases matches_anchor_iff.1 hFirst with ⟨hHolds, rfl⟩
    exact ⟨hHolds, hRest⟩
  · rintro ⟨hHolds, hRest⟩
    exact ⟨i, matches_anchor_iff.2 ⟨hHolds, rfl⟩, hRest⟩

/- A test in front accepts the next character of a text. -/
theorem matchesAll_one_cons_iff
    {chars : List Char}
    {accepts : Char → Bool}
    {rs : List Regex}
    {i j : Nat} :
    MatchesAll chars.toArray (.one accepts :: rs) i j ↔
      ∃ c, chars.drop i = c :: chars.drop (i + 1) ∧
        accepts c = true ∧
        MatchesAll chars.toArray rs (i + 1) j := by
  constructor
  · rintro ⟨_, hFirst, hRest⟩
    rcases matches_one_iff.1 hFirst with
      ⟨c, hFound, hAccepted, rfl⟩
    exact ⟨c, drop_eq_cons hFound, hAccepted, hRest⟩
  · rintro ⟨c, hDrop, hAccepted, hRest⟩
    exact ⟨i + 1,
      matches_one_iff.2
        ⟨c, (getElem?_of_drop hDrop).1, hAccepted, rfl⟩,
      hRest⟩

/- The next character of a text is the one in front. -/
theorem matchesAll_only_cons_iff
    {chars : List Char}
    {c : Char}
    {rs : List Regex}
    {i j : Nat} :
    MatchesAll chars.toArray (only c :: rs) i j ↔
      chars.drop i = c :: chars.drop (i + 1) ∧
        MatchesAll chars.toArray rs (i + 1) j := by
  unfold only
  rw [matchesAll_one_cons_iff]
  constructor
  · rintro ⟨d, hDrop, hSame, hRest⟩
    obtain rfl : d = c := beq_iff_eq.1 hSame
    exact ⟨hDrop, hRest⟩
  · rintro ⟨hDrop, hRest⟩
    exact ⟨c, hDrop, beq_self_eq_true c, hRest⟩

theorem lt_length_of_drop
    {chars rest : List Char}
    {i : Nat}
    {c : Char}
    (hDrop : chars.drop i = c :: rest) :
    i < chars.length :=
  (Array.getElem?_eq_some_iff.1 (getElem?_of_drop hDrop).1).1

/-
  Rounds of the expression for a character in a line pass over
  characters that end no line.
-/
theorem rounds_inLine_iff
    {chars : List Char}
    {n i j : Nat} :
    Rounds chars.toArray inLine n i j ↔
      j = i + n ∧
      ∃ passed, passed.length = n ∧ '\n' ∉ passed ∧
        chars.drop i = passed ++ chars.drop j := by
  induction n generalizing i with
  | zero =>
      constructor
      · intro hRounds
        cases hRounds
        exact ⟨rfl, [], rfl, List.not_mem_nil, rfl⟩
      · rintro ⟨rfl, _⟩
        exact .zero
  | succ n ih =>
      constructor
      · intro hRounds
        cases hRounds with
        | succ round rest =>
            rcases matches_one_iff.1 round with
              ⟨c, hFound, hAccepted, rfl⟩
            rcases ih.1 rest with
              ⟨rfl, passed, hLength, hPassed, hDrop⟩
            refine ⟨by omega, c :: passed,
              congrArg Nat.succ hLength, ?_, ?_⟩
            · rw [List.mem_cons, not_or]
              refine ⟨?_, hPassed⟩
              rintro rfl
              exact nomatch hAccepted
            · rw [drop_eq_cons hFound, hDrop]
              rfl
      · rintro ⟨rfl, passed, hLength, hPassed, hDrop⟩
        cases passed with
        | nil => exact nomatch hLength
        | cons c passed =>
            rw [List.mem_cons, not_or] at hPassed
            rcases getElem?_of_drop hDrop with ⟨hFound, hRest⟩
            refine .succ (matches_one_iff.2 ⟨c, hFound, ?_, rfl⟩)
              (ih.2 ⟨by omega, passed, Nat.succ.inj hLength,
                hPassed.2, hRest⟩)
            simpa using Ne.symm hPassed.1

end Regex

------------------------------------------------------------
-- Reading Translations
------------------------------------------------------------

namespace Glob

open Regex

/- The expressions that a glob is translated to. -/
def pieces : List Char → List Regex
| [] => []
| ['\\'] => [only '\\']
| '\\' :: c :: rest => only c :: pieces rest
| c :: rest =>
    if c = '*' then
      .repeated inLine 0 none :: pieces rest
    else if c = '?' then inLine :: pieces rest
    else only c :: pieces rest

/- A character without a meaning in globs. -/
theorem pieces_cons
    {c : Char}
    {glob : List Char}
    (hEscape : c ≠ '\\')
    (hStar : c ≠ '*')
    (hAny : c ≠ '?') :
    pieces (c :: glob) = only c :: pieces glob := by
  rw [pieces, if_neg hStar, if_neg hAny]
  · exact fun h _ => hEscape h
  · exact fun _ _ h _ => hEscape h

/- The reader of an expression without modes. -/
def reader (text : List Char) : Reader :=
  { rest := text, modes := {} }

theorem readAtom_dot
    (rest : List Char) :
    readAtom {} ('.' :: rest) = some (inLine, rest) := by
  have hDot : Modes.dot? {} = some inLine := by
    unfold Modes.dot? inLine
    simp
  unfold readAtom
  dsimp only
  rw [hDot]
  rfl

theorem keepsBackslash_iff
    {c : Char} :
    keepsBackslash c = true ↔
      c ∈ ['\\', '*', '?', '.', '|', '+', '(', ')', '{', '}',
        '[', ']'] :=
  List.contains_iff_mem

theorem needsBackslash_iff
    {c : Char} :
    needsBackslash c = true ↔
      c ∈ ['.', '|', '+', '(', ')', '{', '}'] :=
  List.contains_iff_mem

/- A backslash that is kept takes the meaning away. -/
theorem readAtom_escaped
    {c : Char}
    (hKeeps : keepsBackslash c = true)
    (rest : List Char) :
    readAtom {} ('\\' :: c :: rest) = some (only c, rest) := by
  have hMember := keepsBackslash_iff.1 hKeeps
  simp only [List.mem_cons, List.not_mem_nil,
    or_false] at hMember
  rcases hMember with rfl | rfl | rfl | rfl | rfl | rfl | rfl |
    rfl | rfl | rfl | rfl | rfl <;> rfl

/- The characters that begin atoms of their own. -/
def atomMarks : List Char :=
  ['\\', '.', '^', '$', '[']

/- The characters that stand between atoms or behind them. -/
def operatorMarks : List Char :=
  ['|', ')', '?', '*', '+', '{', '(']

/- Any character without a meaning stands for itself. -/
theorem readAtom_literal
    {c : Char}
    (hPlain : c ∉ atomMarks)
    (rest : List Char) :
    readAtom {} (c :: rest) = some (only c, rest) := by
  simp only [atomMarks, List.mem_cons, List.not_mem_nil,
    or_false, not_or] at hPlain
  rcases hPlain with ⟨hEscape, hDot, hCaret, hDollar, hClass⟩
  unfold readAtom
  split <;> rename_i heq <;> cases heq
  · exact absurd rfl hEscape
  · exact absurd rfl hDot
  · exact absurd rfl hCaret
  · exact absurd rfl hDollar
  · exact absurd rfl hClass
  · rfl

/- An atom is read as the next piece of a sequence. -/
theorem readSequence_atom
    {c : Char}
    {text left : List Char}
    {r : Regex}
    (hAtom : readAtom {} (c :: text) = some (r, left))
    (hPlain : c ∉ operatorMarks)
    (fuel : Nat)
    (earlier : List (Option Regex)) :
    readSequence (fuel + 1) earlier (reader (c :: text)) =
      readSequence fuel (some r :: earlier) (reader left) := by
  have hSkip :
      skip (reader (c :: text)).modes
        (reader (c :: text)).rest = c :: text := rfl
  simp only [operatorMarks, List.mem_cons, List.not_mem_nil,
    or_false, not_or] at hPlain
  rcases hPlain with
    ⟨hBar, hClose, hOption, hStar, hPlus, hBrace, hOpen⟩
  rw [readSequence]
  dsimp only
  rw [hSkip]
  split <;> try (rename_i heq; cases heq)
  · exact absurd rfl hBar
  · exact absurd rfl hClose
  · exact absurd rfl hOption
  · exact absurd rfl hStar
  · exact absurd rfl hPlus
  · exact absurd rfl hBrace
  · exact absurd rfl hOpen
  · have hModes : (reader (c :: text)).modes = {} := rfl
    rw [hModes, hAtom]
    rfl

/-
  Whether a text is read as some pieces in front of another
  text, with no more steps than it has characters.
-/
def ReadAs
    (text : List Char)
    (rs : List Regex)
    (rest : List Char) : Prop :=
  ∃ steps ≤ text.length,
    ∀ fuel earlier,
      readSequence (fuel + steps) earlier
          (reader (text ++ rest)) =
        readSequence fuel (rs.reverse.map some ++ earlier)
          (reader rest)

namespace ReadAs

variable {text rest : List Char}
variable {rs : List Regex}

theorem nil : ReadAs [] [] rest :=
  ⟨0, Nat.le_refl 0, fun _ _ => rfl⟩

theorem append
    {text' : List Char}
    {rs' : List Regex}
    (hFirst : ReadAs text rs (text' ++ rest))
    (hSecond : ReadAs text' rs' rest) :
    ReadAs (text ++ text') (rs ++ rs') rest := by
  rcases hFirst with ⟨m, hm, hFirst⟩
  rcases hSecond with ⟨n, hn, hSecond⟩
  refine ⟨n + m, ?_, fun fuel earlier => ?_⟩
  · rw [List.length_append]
    omega
  · rw [List.append_assoc, ← Nat.add_assoc, hFirst, hSecond,
      List.reverse_append, List.map_append,
      List.append_assoc]

theorem literal
    {c : Char}
    (hAtom : c ∉ atomMarks)
    (hOperator : c ∉ operatorMarks) :
    ReadAs [c] [only c] rest :=
  ⟨1, Nat.le_refl 1, fun fuel earlier =>
    readSequence_atom (readAtom_literal hAtom rest) hOperator
      fuel earlier⟩

theorem escaped
    {c : Char}
    (hKeeps : keepsBackslash c = true) :
    ReadAs ['\\', c] [only c] rest :=
  ⟨1, Nat.le_succ 1, fun fuel earlier =>
    readSequence_atom (readAtom_escaped hKeeps rest)
      (by decide) fuel earlier⟩

theorem caret :
    ReadAs ['^'] [.anchor .textStart] rest :=
  ⟨1, Nat.le_refl 1, fun _ _ => rfl⟩

theorem dot : ReadAs ['.'] [inLine] rest :=
  ⟨1, Nat.le_refl 1, fun fuel earlier =>
    readSequence_atom (readAtom_dot rest) (by decide) fuel
      earlier⟩

/- A dot with a star, unless they ask for short matches. -/
theorem dotStar
    (hRest : rest.head? ≠ some '?') :
    ReadAs ['.', '*'] [.repeated inLine 0 none] rest := by
  have hLazy : skipLazy rest = rest := by
    unfold skipLazy
    split
    · exact absurd rfl hRest
    · rfl
  refine ⟨2, Nat.le_refl 2, fun fuel earlier => ?_⟩
  have hDot :=
    readSequence_atom (readAtom_dot ('*' :: rest)) (by decide)
      (fuel + 1) earlier
  have hStar :
      readSequence (fuel + 1) (some inLine :: earlier)
          (reader ('*' :: rest)) =
        readSequence fuel
          (some (.repeated inLine 0 none) :: earlier)
          (reader (skipLazy rest)) := rfl
  rw [hLazy] at hStar
  exact hDot.trans hStar

end ReadAs

/- What a glob is translated to never begins with an option. -/
theorem head?_translate
    (glob : List Char)
    {rest : List Char}
    (hRest : rest.head? ≠ some '?') :
    (translate glob ++ rest).head? ≠ some '?' := by
  fun_cases translate glob with
  | case1 => exact hRest
  | case2 => simp
  | case3 => simp
  | case4 c rest' hKeeps =>
      intro hHead
      cases hHead
      exact hKeeps rfl
  | case5 => simp
  | case6 => simp
  | case7 => simp
  | case8 c rest' _ _ hStar hAny => simpa using hAny

/- A character in front that is no backslash. -/
theorem ne_backslash
    {c : Char}
    {glob : List Char}
    (hOne : c = '\\' → glob = [] → False)
    (hTwo :
      ∀ d rest, c = '\\' → glob = d :: rest → False) :
    c ≠ '\\' := by
  intro hEscape
  cases glob with
  | nil => exact hOne hEscape rfl
  | cons d rest => exact hTwo d rest hEscape rfl

/- A character that keeps no backslash has no meaning. -/
theorem not_mem_marks
    {c : Char}
    (hKeeps : ¬ keepsBackslash c = true)
    (hReserved : ¬ IsReserved c) :
    c ∉ atomMarks ∧ c ∉ operatorMarks := by
  rw [keepsBackslash_iff] at hKeeps
  unfold IsReserved at hReserved
  unfold atomMarks operatorMarks
  simp only [List.mem_cons, List.not_mem_nil, or_false,
    not_or] at hKeeps hReserved ⊢
  simp [hKeeps, hReserved]

/- What gets a backslash of its own keeps one, too. -/
theorem keepsBackslash_iff_needs
    {c : Char}
    (hPlain : c ∉ ['*', '?', '\\'])
    (hReserved : ¬ IsReserved c) :
    keepsBackslash c = true ↔ needsBackslash c = true := by
  rw [keepsBackslash_iff, needsBackslash_iff]
  unfold IsReserved at hReserved
  simp only [List.mem_cons, List.not_mem_nil, or_false,
    not_or] at hPlain hReserved ⊢
  simp [hPlain, hReserved]

/- A translation is read piece by piece. -/
theorem readAs_translate
    {glob : List Char}
    (hGlob : ∀ c ∈ glob, ¬ IsReserved c)
    {rest : List Char}
    (hRest : rest.head? ≠ some '?') :
    ReadAs (translate glob) (pieces glob) rest := by
  fun_induction translate glob with
  | case1 => exact .nil
  | case2 => exact .escaped (c := '\\') rfl
  | case3 c glob hKeeps ih =>
      have hLater := ih fun d hd =>
        hGlob d (List.mem_cons_of_mem _
          (List.mem_cons_of_mem _ hd))
      exact (ReadAs.escaped hKeeps).append hLater
  | case4 c glob hKeeps ih =>
      have hLater := ih fun d hd =>
        hGlob d (List.mem_cons_of_mem _
          (List.mem_cons_of_mem _ hd))
      rcases not_mem_marks hKeeps (hGlob c (by simp)) with
        ⟨hAtom, hOperator⟩
      exact (ReadAs.literal hAtom hOperator).append hLater
  | case5 glob _ _ ih =>
      have hLater := ih fun d hd =>
        hGlob d (List.mem_cons_of_mem _ hd)
      exact (ReadAs.dotStar (head?_translate glob hRest)).append
        hLater
  | case6 glob _ _ _ ih =>
      have hLater := ih fun d hd =>
        hGlob d (List.mem_cons_of_mem _ hd)
      exact ReadAs.dot.append hLater
  | case7 c glob hOne hTwo hStar hAny hNeeds ih =>
      have hLater := ih fun d hd =>
        hGlob d (List.mem_cons_of_mem _ hd)
      have hEscape := ne_backslash hOne hTwo
      have hKeeps : keepsBackslash c = true :=
        (keepsBackslash_iff_needs
          (by simp [hStar, hAny, hEscape])
          (hGlob c List.mem_cons_self)).2 hNeeds
      rw [pieces_cons hEscape hStar hAny]
      exact (ReadAs.escaped hKeeps).append hLater
  | case8 c glob hOne hTwo hStar hAny hNeeds ih =>
      have hLater := ih fun d hd =>
        hGlob d (List.mem_cons_of_mem _ hd)
      have hReserved := hGlob c List.mem_cons_self
      have hEscape := ne_backslash hOne hTwo
      have hKeeps : ¬ keepsBackslash c = true := by
        rw [keepsBackslash_iff_needs
          (by simp [hStar, hAny, hEscape]) hReserved]
        exact hNeeds
      rcases not_mem_marks hKeeps hReserved with
        ⟨hAtom, hOperator⟩
      rw [pieces_cons hEscape hStar hAny]
      exact (ReadAs.literal hAtom hOperator).append hLater

/- Expressions between the anchors of a whole text. -/
def enclosed (rs : List Regex) : Regex :=
  (rs ++ [Regex.anchor .textEnd]).foldl .seq
    (Regex.anchor .textStart)

/-
  The source of a glob is read if its translation is, and the
  guard behind it becomes the anchor of the end.
-/
theorem compile?_of_readAs
    {glob : String}
    {rs : List Regex}
    (hBody :
      ReadAs (translate glob.toList) rs ['\\', 'z']) :
    Pattern.compile? (toSource glob) false =
      some (enclosed rs) := by
  have hGuard :
      Pattern.expandGuard (toSource glob).toList =
        '^' :: translate glob.toList ++ ['\\', 'z'] := by
    unfold toSource Pattern.expandGuard
    rw [String.toList_ofList, Text.stripEnding_append]
  have hRead : ReadAs
      ('^' :: translate glob.toList ++ ['\\', 'z'])
      (.anchor .textStart :: (rs ++ [.anchor .textEnd]))
      [] := by
    have hStart : ReadAs ['^'] [.anchor .textStart]
        (translate glob.toList ++ ['\\', 'z'] ++ []) :=
      .caret
    have hEnd : ReadAs ['\\', 'z'] [.anchor .textEnd] [] :=
      ⟨1, Nat.le_succ 1, fun _ _ => rfl⟩
    exact hStart.append (hBody.append hEnd)
  rcases hRead with ⟨steps, hSteps, hRead⟩
  unfold Pattern.compile?
  rw [hGuard]
  generalize '^' :: translate glob.toList ++ ['\\', 'z'] =
    text at hSteps hRead ⊢
  obtain ⟨fuel, hFuel⟩ :
      ∃ fuel, 2 * text.length + 1 = fuel + 1 + steps :=
    ⟨2 * text.length - steps, by omega⟩
  have hSequence :
      readSequence (2 * text.length + 1) [] (reader text) =
        some (enclosed rs, reader []) := by
    have hEnd :
        readSequence (fuel + 1)
            ((Regex.anchor .textStart ::
              (rs ++ [.anchor .textEnd])).reverse.map some)
            (reader []) =
          some (sequenceOf ((Regex.anchor .textStart ::
            (rs ++ [.anchor .textEnd])).reverse.map some),
            reader []) := rfl
    rw [sequenceOf_of_pieces] at hEnd
    rw [hFuel, ← List.append_nil text, hRead,
      List.append_nil, hEnd]
    rfl
  have hAlternatives :
      readAlternatives (2 * text.length + 2) (reader text) =
        some (enclosed rs, reader []) := by
    rw [readAlternatives, hSequence]
    rfl
  unfold Regex.read?
  unfold reader at hAlternatives
  dsimp only
  rw [hAlternatives]
  rfl

------------------------------------------------------------
-- What Translations Match
------------------------------------------------------------

theorem denotes_nil_iff
    {text : List Char} : Denotes [] text ↔ text = [] := by
  constructor
  · intro hDenotes
    cases hDenotes
    rfl
  · rintro rfl
    exact .nil

theorem denotes_loneBackslash_iff
    {text : List Char} :
    Denotes ['\\'] text ↔ text = ['\\'] := by
  constructor
  · intro hDenotes
    cases hDenotes with
    | loneBackslash => rfl
    | literal plain => exact absurd plain (by decide)
  · rintro rfl
    exact .loneBackslash

theorem denotes_escaped_iff
    {c : Char}
    {glob text : List Char} :
    Denotes ('\\' :: c :: glob) text ↔
      ∃ rest, text = c :: rest ∧ Denotes glob rest := by
  constructor
  · intro hDenotes
    cases hDenotes with
    | escaped rest => exact ⟨_, rfl, rest⟩
    | literal plain => exact absurd plain (by decide)
  · rintro ⟨rest, rfl, hRest⟩
    exact .escaped hRest

theorem denotes_run_iff
    {glob text : List Char} :
    Denotes ('*' :: glob) text ↔
      ∃ passed rest, text = passed ++ rest ∧
        '\n' ∉ passed ∧ Denotes glob rest := by
  constructor
  · intro hDenotes
    cases hDenotes with
    | run inLine rest => exact ⟨_, _, rfl, inLine, rest⟩
    | literal plain => exact absurd plain (by decide)
  · rintro ⟨passed, rest, rfl, hPassed, hRest⟩
    exact .run hPassed hRest

theorem denotes_any_iff
    {glob text : List Char} :
    Denotes ('?' :: glob) text ↔
      ∃ c rest, text = c :: rest ∧ c ≠ '\n' ∧
        Denotes glob rest := by
  constructor
  · intro hDenotes
    cases hDenotes with
    | any inLine rest => exact ⟨_, _, rfl, inLine, rest⟩
    | literal plain => exact absurd plain (by decide)
  · rintro ⟨c, rest, rfl, hInLine, hRest⟩
    exact .any hInLine hRest

theorem denotes_literal_iff
    {c : Char}
    {glob text : List Char}
    (hEscape : c ≠ '\\')
    (hStar : c ≠ '*')
    (hAny : c ≠ '?') :
    Denotes (c :: glob) text ↔
      ∃ rest, text = c :: rest ∧ Denotes glob rest := by
  constructor
  · intro hDenotes
    cases hDenotes with
    | run => exact absurd rfl hStar
    | any => exact absurd rfl hAny
    | escaped => exact absurd rfl hEscape
    | loneBackslash => exact absurd rfl hEscape
    | literal _ rest => exact ⟨_, rfl, rest⟩
  · rintro ⟨rest, rfl, hRest⟩
    exact .literal (by simp [hEscape, hStar, hAny]) hRest

variable {chars glob : List Char}
variable {i j : Nat}

/- The anchor of the end holds where no text is left. -/
theorem holds_textEnd_iff
    (hStart : i ≤ chars.length) :
    Anchor.textEnd.holds chars.toArray i = true ↔
      chars.drop i = [] := by
  rw [List.drop_eq_nil_iff]
  unfold Anchor.holds
  rw [beq_iff_eq, List.size_toArray]
  omega

theorem exists_matchesAll_textEnd_iff
    (hStart : i ≤ chars.length) :
    (∃ j, MatchesAll chars.toArray [.anchor .textEnd] i j) ↔
      chars.drop i = [] := by
  simp only [matchesAll_anchor_cons_iff,
    holds_textEnd_iff hStart, exists_and_left]
  exact and_iff_left ⟨i, rfl⟩

/- The end of the text is where a glob ends. -/
theorem matchesAll_textEnd_iff
    (hStart : i ≤ chars.length) :
    MatchesAll chars.toArray [.anchor .textEnd] i j ↔
      j = chars.length ∧ Denotes [] (chars.drop i) := by
  rw [denotes_nil_iff, ← holds_textEnd_iff hStart]
  constructor
  · rintro ⟨k, hEnd, rfl⟩
    rcases matches_anchor_iff.1 hEnd with ⟨hAt, rfl⟩
    have := List.drop_eq_nil_iff.1
      ((holds_textEnd_iff hStart).1 hAt)
    exact ⟨by omega, hAt⟩
  · rintro ⟨rfl, hAt⟩
    have := List.drop_eq_nil_iff.1
      ((holds_textEnd_iff hStart).1 hAt)
    refine ⟨i, matches_anchor_iff.2 ⟨hAt, rfl⟩, ?_⟩
    exact Nat.le_antisymm hStart this

variable {rs : List Regex}

/- One character, and what a glob denotes behind it. -/
theorem matchesAll_one_iff
    {accepts : Char → Bool}
    (ih :
      i + 1 ≤ chars.length →
        (MatchesAll chars.toArray rs (i + 1) j ↔
          j = chars.length ∧
            Denotes glob (chars.drop (i + 1)))) :
    MatchesAll chars.toArray (.one accepts :: rs) i j ↔
      j = chars.length ∧
        ∃ c rest, chars.drop i = c :: rest ∧
          accepts c = true ∧ Denotes glob rest := by
  constructor
  · rintro ⟨_, hFirst, hRest⟩
    rcases matches_one_iff.1 hFirst with
      ⟨c, hFound, hAccepted, rfl⟩
    have hInside : i + 1 ≤ chars.length :=
      (Array.getElem?_eq_some_iff.1 hFound).1
    rcases (ih hInside).1 hRest with ⟨hEnd, hDenotes⟩
    exact ⟨hEnd, c, _, drop_eq_cons hFound, hAccepted,
      hDenotes⟩
  · rintro ⟨hEnd, c, rest, hDrop, hAccepted, hDenotes⟩
    rcases getElem?_of_drop hDrop with ⟨hFound, hLater⟩
    have hInside : i + 1 ≤ chars.length :=
      (Array.getElem?_eq_some_iff.1 hFound).1
    refine ⟨i + 1,
      matches_one_iff.2 ⟨c, hFound, hAccepted, rfl⟩, ?_⟩
    exact (ih hInside).2 ⟨hEnd, hLater ▸ hDenotes⟩

/- A given character, and what a glob denotes behind it. -/
theorem matchesAll_only_iff
    {c : Char}
    (ih :
      i + 1 ≤ chars.length →
        (MatchesAll chars.toArray rs (i + 1) j ↔
          j = chars.length ∧
            Denotes glob (chars.drop (i + 1)))) :
    MatchesAll chars.toArray (only c :: rs) i j ↔
      j = chars.length ∧
        ∃ rest, chars.drop i = c :: rest ∧
          Denotes glob rest := by
  unfold only
  rw [matchesAll_one_iff ih]
  refine and_congr_right fun _ => ?_
  constructor
  · rintro ⟨d, rest, hDrop, hSame, hRest⟩
    obtain rfl : d = c := beq_iff_eq.1 hSame
    exact ⟨rest, hDrop, hRest⟩
  · rintro ⟨rest, hDrop, hRest⟩
    exact ⟨c, rest, hDrop, beq_self_eq_true c, hRest⟩

/- A run within a line, and what a glob denotes behind it. -/
theorem matchesAll_run_iff
    (hStart : i ≤ chars.length)
    (ih :
      ∀ k ≤ chars.length,
        (MatchesAll chars.toArray rs k j ↔
          j = chars.length ∧ Denotes glob (chars.drop k))) :
    MatchesAll chars.toArray
        (.repeated inLine 0 none :: rs) i j ↔
      j = chars.length ∧
        ∃ passed rest, chars.drop i = passed ++ rest ∧
          '\n' ∉ passed ∧ Denotes glob rest := by
  constructor
  · rintro ⟨k, hFirst, hRest⟩
    rcases matches_repeated_iff.1 hFirst with
      ⟨n, _, hRounds⟩
    rcases rounds_inLine_iff.1 hRounds with
      ⟨_, passed, _, hPassed, hDrop⟩
    rcases (ih k (hRounds.le_size hStart)).1 hRest with
      ⟨hEnd, hDenotes⟩
    exact ⟨hEnd, passed, _, hDrop, hPassed, hDenotes⟩
  · rintro ⟨hEnd, passed, rest, hDrop, hPassed, hDenotes⟩
    have hLater :
        chars.drop (i + passed.length) = rest := by
      rw [← List.drop_drop, hDrop, List.drop_left]
    have hRounds :
        Rounds chars.toArray inLine passed.length i
          (i + passed.length) :=
      rounds_inLine_iff.2
        ⟨rfl, passed, rfl, hPassed, hLater ▸ hDrop⟩
    refine ⟨i + passed.length,
      matches_repeated_iff.2 ⟨_, ⟨Nat.zero_le _, ?_⟩, hRounds⟩,
      ?_⟩
    · exact fun _ hNone => nomatch hNone
    · exact (ih _ (hRounds.le_size hStart)).2
        ⟨hEnd, hLater ▸ hDenotes⟩

/-
  The expressions of a glob match up to the end of a text what
  the glob denotes.
-/
theorem matchesAll_pieces_iff
    (hStart : i ≤ chars.length) :
    MatchesAll chars.toArray
        (pieces glob ++ [.anchor .textEnd]) i j ↔
      j = chars.length ∧ Denotes glob (chars.drop i) := by
  fun_induction pieces glob generalizing i with
  | case1 => exact matchesAll_textEnd_iff hStart
  | case2 =>
      refine (matchesAll_only_iff
        matchesAll_textEnd_iff).trans ?_
      rw [denotes_loneBackslash_iff]
      simp only [denotes_nil_iff, exists_eq_right]
  | case3 c glob ih =>
      rw [List.cons_append, matchesAll_only_iff ih,
        denotes_escaped_iff]
  | case4 glob _ _ ih =>
      rw [List.cons_append,
        matchesAll_run_iff hStart fun _ => ih, denotes_run_iff]
  | case5 glob _ _ _ ih =>
      unfold inLine
      rw [List.cons_append, matchesAll_one_iff ih,
        denotes_any_iff]
      simp
  | case6 c glob hOne hTwo hStar hAny ih =>
      rw [List.cons_append, matchesAll_only_iff ih,
        denotes_literal_iff (ne_backslash hOne hTwo) hStar hAny]

/- A whole pattern matches from the start of a text. -/
theorem search_enclosed_iff
    {text : String} :
    (enclosed rs).search text = true ↔
      ∃ j, MatchesAll text.toList.toArray
        (rs ++ [.anchor .textEnd]) 0 j := by
  rw [search_eq_true_iff]
  unfold enclosed
  constructor
  · rintro ⟨i, j, _, hMatch⟩
    rcases matches_foldl_iff.1 hMatch with ⟨k, hFirst, hRest⟩
    rcases matches_anchor_iff.1 hFirst with ⟨hHolds, rfl⟩
    obtain rfl : k = 0 := by
      simpa [Anchor.holds] using hHolds
    exact ⟨j, hRest⟩
  · rintro ⟨j, hRest⟩
    exact ⟨0, j, Nat.zero_le _, matches_foldl_iff.2
      ⟨0, matches_anchor_iff.2 ⟨rfl, rfl⟩, hRest⟩⟩

/-
  A glob whose translation is read makes a pattern, which
  matches by the expressions of the translation.
-/
theorem exists_pattern_of_readAs
    {glob : String}
    (hBody :
      ReadAs (translate glob.toList) rs ['\\', 'z']) :
    ∃ pattern,
      Pattern.ofSource? (toSource glob) false =
        some pattern ∧
      ∀ text : String,
        pattern.matchesText text = true ↔
          ∃ j, MatchesAll text.toList.toArray
            (rs ++ [.anchor .textEnd]) 0 j := by
  have hCompile := compile?_of_readAs hBody
  unfold Pattern.ofSource?
  split
  · rename_i r hSome
    obtain rfl : enclosed rs = r :=
      Option.some.inj (hCompile.symm.trans hSome)
    exact ⟨_, rfl, fun _ => search_enclosed_iff⟩
  · rename_i hNone
    exact nomatch hCompile.symm.trans hNone

/-
  A glob without reserved characters makes a pattern, which
  matches exactly the texts that the glob denotes.
-/
theorem matchesText_toSource_iff
    (glob : String)
    (hGlob : ∀ c ∈ glob.toList, c ∉ ['[', ']', '^', '$']) :
    ∃ pattern,
      Pattern.ofSource? (toSource glob) false =
        some pattern ∧
      ∀ text : String,
        pattern.matchesText text = true ↔
          Denotes glob.toList text.toList := by
  rcases exists_pattern_of_readAs
      (readAs_translate hGlob (by decide)) with
    ⟨pattern, hPattern, hMatches⟩
  refine ⟨pattern, hPattern, fun text => ?_⟩
  rw [hMatches]
  simp only [matchesAll_pieces_iff (Nat.zero_le _),
    exists_eq_left, List.drop_zero]

/-
  A backslash in front of an ordinary character, and one that
  stands for itself at the end, which no line break may follow.
-/
theorem matchesText_toSource_backslashes :
    ∃ pattern,
      Pattern.ofSource? (toSource "\\x?*\\") false =
        some pattern ∧
      pattern.matchesText "x(.+\\" = true ∧
      pattern.matchesText "x(.+\\\n" = false := by
  have hGlob :
      "\\x?*\\".toList = ['\\', 'x', '?', '*', '\\'] := rfl
  rcases matchesText_toSource_iff "\\x?*\\"
      (by rw [hGlob]; simp) with
    ⟨pattern, hPattern, hMatches⟩
  refine ⟨pattern, hPattern, (hMatches _).2 ?_, ?_⟩
  · have hRun :
        Denotes ['*', '\\'] (['.', '+'] ++ ['\\']) :=
      .run (by decide) .loneBackslash
    exact .escaped (.any (by decide) hRun)
  · have hText :
        "x(.+\\\n".toList =
          ['x', '(', '.', '+', '\\', '\n'] := rfl
    rw [Bool.eq_false_iff, ne_eq, hMatches, hGlob, hText,
      denotes_escaped_iff]
    rintro ⟨_, ⟨⟩, hDenotes⟩
    rcases denotes_any_iff.1 hDenotes with
      ⟨_, _, ⟨⟩, _, hDenotes⟩
    rcases denotes_run_iff.1 hDenotes with
      ⟨passed, rest, hRun, _, hDenotes⟩
    rw [denotes_loneBackslash_iff.1 hDenotes] at hRun
    have hLast := congrArg List.getLast? hRun
    rw [List.getLast?_concat] at hLast
    exact absurd hLast (by decide)

end Glob

end TreeKeeper
