import TreeKeeper.Proofs.Pattern.Translation

/-
  Globs with one class in brackets between two literal parts.
  Star and question mark are translated inside of brackets
  as they are outside, so that a class denotes its members
  only up to these two: a question mark is read as a dot, and
  a star as a dot and a star.

  Key definitions include:
    * `Glob.bracketed`
    * `Glob.admitted`
    * `Glob.joined`

  Main declarations:
    * `Glob.translate_append`
    * `Glob.readItems_members`
    * `Glob.readAs_bracketed`
    * `Glob.matchesText_bracketed_iff`
-/

------------------------------------------------------------
-- Translating Classes
------------------------------------------------------------

namespace TreeKeeper

namespace Glob

open Regex

/- A glob of a class in brackets between two literal parts. -/
def bracketed
    (front members back : List Char) : String :=
  String.ofList (front ++ '[' :: (members ++ ']' :: back))

/- The translation of a character that is no backslash. -/
def translateOne (c : Char) : List Char :=
  if c = '*' then ['.', '*']
  else if c = '?' then ['.']
  else if needsBackslash c then ['\\', c]
  else [c]

theorem translate_cons
    {c : Char}
    (hEscape : c ≠ '\\')
    (glob : List Char) :
    translate (c :: glob) = translateOne c ++ translate glob := by
  unfold translateOne
  rw [translate]
  · split
    · rfl
    · split
      · rfl
      · split <;> rfl
  · exact fun h _ => hEscape h
  · exact fun _ _ h _ => hEscape h

/- Without backslashes, parts are translated on their own. -/
theorem translate_append
    {front : List Char}
    (hFront : '\\' ∉ front)
    (back : List Char) :
    translate (front ++ back) =
      front.flatMap translateOne ++ translate back := by
  induction front with
  | nil => rfl
  | cons c front ih =>
      rw [List.mem_cons, not_or] at hFront
      rw [List.cons_append, translate_cons (Ne.symm hFront.1),
        ih hFront.2, List.flatMap_cons, List.append_assoc]

------------------------------------------------------------
-- Reading Classes
------------------------------------------------------------

/- The characters that the translation of a member admits. -/
def admitted (c : Char) : List Char :=
  if c = '*' then ['.', '*']
  else if c = '?' then ['.']
  else [c]

/- A class with further single characters. -/
def joined
    (items : CharacterClass)
    (members : List Char) : CharacterClass :=
  members.foldl (fun s c => s.union (.single c)) items

theorem joined_eq_true_iff
    {items : CharacterClass}
    {members : List Char}
    {c : Char} :
    joined items members c = true ↔
      items c = true ∨ c ∈ members := by
  induction members generalizing items with
  | nil => simp [joined]
  | cons d members ih =>
      have hStep :
          joined items (d :: members) =
            joined (items.union (.single d)) members := rfl
      rw [hStep, ih]
      unfold CharacterClass.union CharacterClass.single
      rw [Bool.or_eq_true, beq_iff_eq, List.mem_cons, or_assoc]

/- Whether a text begins with a character that makes no range. -/
def GoesOn (text : List Char) : Prop :=
  ∃ c rest, text = c :: rest ∧ c ≠ '-'

/- The characters that mark no member of a class. -/
def classMarks : List Char :=
  [']', '[', '-', '&', '~']

/- A character that no range begins with is a single item. -/
theorem readRange_single
    {c : Char}
    {text rest : List Char}
    (hItem : readItem {} text = some (.character c, rest))
    (hRest : GoesOn rest) :
    readRange {} text = some (.single c, rest) := by
  rcases hRest with ⟨d, rest, rfl, hHyphen⟩
  have hSkip : skip {} (d :: rest) = d :: rest := rfl
  unfold readRange
  rw [hItem, Option.bind_eq_bind, Option.bind_some]
  dsimp only
  rw [hSkip]
  split
  · rename_i heq
    cases heq
  · rename_i heq
    cases heq
    exact absurd rfl hHyphen
  · rfl

/- A single item is added to the class. -/
theorem readItems_single
    {c d : Char}
    {text rest : List Char}
    (hItem :
      readItem {} (d :: text) = some (.character c, rest))
    (hPlain : d ∉ classMarks)
    (hRest : GoesOn rest)
    (fuel : Nat)
    (items : CharacterClass) :
    readItems {} (fuel + 1) none items (d :: text) =
      readItems {} fuel none (items.union (.single c))
        rest := by
  have hSkip : skip {} (d :: text) = d :: text := rfl
  simp only [classMarks, List.mem_cons, List.not_mem_nil,
    or_false, not_or] at hPlain
  rcases hPlain with ⟨hClose, hOpen, hMinus, hAnd, hTilde⟩
  rw [readItems]
  dsimp only
  rw [hSkip]
  split <;> try (rename_i heq; cases heq)
  · exact absurd rfl hClose
  · exact absurd rfl hAnd
  · exact absurd rfl hMinus
  · exact absurd rfl hTilde
  · exact absurd rfl hOpen
  · rw [readRange_single hItem hRest]

/- A literal member is read as it stands. -/
theorem readItems_literal
    {c : Char}
    {rest : List Char}
    (hEscape : c ≠ '\\')
    (hPlain : c ∉ classMarks)
    (hRest : GoesOn rest)
    (fuel : Nat)
    (items : CharacterClass) :
    readItems {} (fuel + 1) none items (c :: rest) =
      readItems {} fuel none (items.union (.single c))
        rest := by
  have hItem :
      readItem {} (c :: rest) = some (.character c, rest) := by
    unfold readItem
    split <;> rename_i heq <;> cases heq
    · exact absurd rfl hEscape
    · rfl
  exact readItems_single hItem hPlain hRest fuel items

/- A member with a backslash is read without it. -/
theorem readItems_escaped
    {c : Char}
    {rest : List Char}
    (hKeeps : keepsBackslash c = true)
    (hRest : GoesOn rest)
    (fuel : Nat)
    (items : CharacterClass) :
    readItems {} (fuel + 1) none items ('\\' :: c :: rest) =
      readItems {} fuel none (items.union (.single c))
        rest := by
  have hItem :
      readItem {} ('\\' :: c :: rest) =
        some (.character c, rest) := by
    have hMember := keepsBackslash_iff.1 hKeeps
    simp only [List.mem_cons, List.not_mem_nil,
      or_false] at hMember
    rcases hMember with rfl | rfl | rfl | rfl | rfl | rfl |
      rfl | rfl | rfl | rfl | rfl | rfl <;> rfl
  exact readItems_single hItem (by decide) hRest fuel items

------------------------------------------------------------
-- Members
------------------------------------------------------------

/- The characters that no plain member of a class is. -/
def memberMarks : List Char :=
  [']', '[', '\\', '^', '!', '-', '&', '~']

/- What a translated member begins with opens no class. -/
theorem exists_translateOne_eq_cons
    {c : Char}
    (hMember : c ∉ memberMarks) :
    ∃ d rest, translateOne c = d :: rest ∧
      d ∉ [']', '^', '-'] := by
  unfold translateOne
  split
  · exact ⟨'.', _, rfl, by decide⟩
  · split
    · exact ⟨'.', _, rfl, by decide⟩
    · split
      · exact ⟨'\\', _, rfl, by decide⟩
      · refine ⟨c, _, rfl, ?_⟩
        simp only [memberMarks, List.mem_cons,
          List.not_mem_nil, or_false, not_or] at hMember ⊢
        simp [hMember]

theorem goesOn_translateOne
    {c : Char}
    (hMember : c ∉ memberMarks)
    (text : List Char) :
    GoesOn (translateOne c ++ text) := by
  rcases exists_translateOne_eq_cons hMember with
    ⟨d, rest, hTranslated, hPlain⟩
  refine ⟨d, rest ++ text, congrArg (· ++ text) hTranslated,
    ?_⟩
  rintro rfl
  exact hPlain (by decide)

/- What gets a backslash of its own keeps it. -/
theorem keepsBackslash_of_needs
    {c : Char}
    (hNeeds : needsBackslash c = true) :
    keepsBackslash c = true := by
  have hMember := needsBackslash_iff.1 hNeeds
  simp only [List.mem_cons, List.not_mem_nil,
    or_false] at hMember
  rcases hMember with rfl | rfl | rfl | rfl | rfl | rfl |
    rfl <;> rfl

theorem not_mem_classMarks
    {c : Char}
    (hMember : c ∉ memberMarks) :
    c ≠ '\\' ∧ c ∉ classMarks := by
  simp only [memberMarks, classMarks, List.mem_cons,
    List.not_mem_nil, or_false, not_or] at hMember ⊢
  simp [hMember]

/-
  Reading the translation of a member adds what it admits to
  the class, with no more steps than there are characters.
-/
theorem readItems_translateOne
    {c : Char}
    (hMember : c ∉ memberMarks)
    {text : List Char}
    (hText : GoesOn text) :
    ∃ steps ≤ (translateOne c).length,
      ∀ fuel items,
        readItems {} (fuel + steps) none items
            (translateOne c ++ text) =
          readItems {} fuel none (joined items (admitted c))
            text := by
  unfold translateOne admitted
  by_cases hStar : c = '*'
  · rw [if_pos hStar, if_pos hStar]
    have hNext : GoesOn ('*' :: text) :=
      ⟨'*', text, rfl, by decide⟩
    refine ⟨2, Nat.le_refl 2, fun fuel items => ?_⟩
    exact (readItems_literal (by decide) (by decide) hNext
        (fuel + 1) items).trans
      (readItems_literal (by decide) (by decide) hText
        fuel _)
  · rw [if_neg hStar, if_neg hStar]
    by_cases hAny : c = '?'
    · rw [if_pos hAny, if_pos hAny]
      exact ⟨1, Nat.le_refl 1,
        readItems_literal (by decide) (by decide) hText⟩
    · rw [if_neg hAny, if_neg hAny]
      by_cases hNeeds : needsBackslash c = true
      · rw [if_pos hNeeds]
        exact ⟨1, Nat.le_succ 1,
          readItems_escaped (keepsBackslash_of_needs hNeeds)
            hText⟩
      · rw [if_neg hNeeds]
        rcases not_mem_classMarks hMember with
          ⟨hEscape, hPlain⟩
        exact ⟨1, Nat.le_refl 1,
          readItems_literal hEscape hPlain hText⟩

/- Members are read one behind the other. -/
theorem readItems_members
    {members : List Char}
    (hMembers : ∀ c ∈ members, c ∉ memberMarks)
    (rest : List Char) :
    ∃ steps ≤ (members.flatMap translateOne).length,
      ∀ fuel items,
        readItems {} (fuel + steps) none items
            (members.flatMap translateOne ++ ']' :: rest) =
          readItems {} fuel none
            (joined items (members.flatMap admitted))
            (']' :: rest) := by
  induction members with
  | nil => exact ⟨0, Nat.le_refl 0, fun _ _ => rfl⟩
  | cons c members ih =>
      rcases List.forall_mem_cons.1 hMembers with
        ⟨hMember, hLater⟩
      -- Behind a member comes another one or the bracket.
      have hText :
          GoesOn
            (members.flatMap translateOne ++ ']' :: rest) := by
        cases members with
        | nil => exact ⟨']', rest, rfl, by decide⟩
        | cons d members =>
            rw [List.flatMap_cons, List.append_assoc]
            exact goesOn_translateOne
              (hLater d List.mem_cons_self) _
      rcases readItems_translateOne hMember hText with
        ⟨m, hm, hFirst⟩
      rcases ih hLater with ⟨n, hn, hRest⟩
      rw [List.flatMap_cons, List.flatMap_cons]
      refine ⟨n + m, ?_, fun fuel items => ?_⟩
      · rw [List.length_append]
        omega
      · rw [List.append_assoc, ← Nat.add_assoc, hFirst, hRest]
        unfold joined
        rw [List.foldl_append]

/- A class that begins with a member has no other head. -/
theorem openClass_cons
    {c : Char}
    (hPlain : c ∉ [']', '^', '-'])
    (text : List Char) :
    openClass {} (c :: text) =
      (false, CharacterClass.none, c :: text) := by
  have hSkip : skip {} (c :: text) = c :: text := rfl
  simp only [List.mem_cons, List.not_mem_nil, or_false,
    not_or] at hPlain
  rcases hPlain with ⟨hClose, hCaret, hHyphen⟩
  have hHyphens :
      readHyphens {} (text.length + 1) CharacterClass.none
          (c :: text) =
        (CharacterClass.none, c :: text) := by
    rw [readHyphens]
    rintro _ ⟨⟩
    exact hHyphen rfl
  simp [openClass, hSkip, hHyphens, hCaret, hClose]

/- A class of plain members is read up to its bracket. -/
theorem readAtom_members
    {members : List Char}
    (hSome : members ≠ [])
    (hMembers : ∀ c ∈ members, c ∉ memberMarks)
    (rest : List Char) :
    readAtom {}
        ('[' :: (members.flatMap translateOne ++ ']' :: rest)) =
      some (.one
        (joined .none (members.flatMap admitted)), rest) := by
  have hOpen :
      openClass {}
          (members.flatMap translateOne ++ ']' :: rest) =
        (false, CharacterClass.none,
          members.flatMap translateOne ++ ']' :: rest) := by
    cases members with
    | nil => exact absurd rfl hSome
    | cons c members =>
        rcases exists_translateOne_eq_cons
            (hMembers c List.mem_cons_self) with
          ⟨d, more, hTranslated, hPlain⟩
        rw [List.flatMap_cons, hTranslated]
        exact openClass_cons hPlain _
  rcases readItems_members hMembers rest with
    ⟨steps, hSteps, hItems⟩
  generalize members.flatMap translateOne = text
    at hOpen hSteps hItems ⊢
  -- The fuel is twice what the characters can take.
  obtain ⟨fuel, hFuel⟩ :
      ∃ fuel, 2 * (text ++ ']' :: rest).length + 1 =
        fuel + 1 + steps := by
    rw [List.length_append]
    exact ⟨2 * (text.length + (']' :: rest).length) - steps,
      by omega⟩
  have hRead :
      readClass {} (2 * (text ++ ']' :: rest).length + 2)
          (text ++ ']' :: rest) =
        some (joined .none (members.flatMap admitted),
          rest) := by
    rw [readClass, hOpen, hFuel]
    dsimp only
    rw [hItems]
    rfl
  rw [readAtom, hRead]
  rfl

/- A class of plain members is one piece. -/
theorem readAs_members
    {members : List Char}
    (hSome : members ≠ [])
    (hMembers : ∀ c ∈ members, c ∉ memberMarks)
    {rest : List Char} :
    ReadAs ('[' :: (members.flatMap translateOne ++ [']']))
      [.one (joined .none (members.flatMap admitted))]
      rest := by
  refine ⟨1, Nat.succ_le_succ (Nat.zero_le _),
    fun fuel earlier => ?_⟩
  have hAtom := readAtom_members hSome hMembers rest
  rw [List.cons_append, List.append_assoc,
    List.singleton_append]
  exact readSequence_atom hAtom (by decide) fuel earlier

------------------------------------------------------------
-- Literal Parts
------------------------------------------------------------

/- The characters with a meaning in globs or as anchors. -/
def globMarks : List Char :=
  ['\\', '*', '?', '[', ']', '^', '$']

variable {word : List Char}

/- Literal parts are read as their characters. -/
theorem pieces_literal
    (hWord : ∀ c ∈ word, c ∉ globMarks) :
    pieces word = word.map only := by
  induction word with
  | nil => rfl
  | cons c word ih =>
      rcases List.forall_mem_cons.1 hWord with
        ⟨hHead, hLater⟩
      simp only [globMarks, List.mem_cons, List.not_mem_nil,
        or_false, not_or] at hHead
      rw [pieces_cons hHead.1 hHead.2.1 hHead.2.2.1,
        ih hLater, List.map_cons]

theorem readAs_literal
    (hWord : ∀ c ∈ word, c ∉ globMarks)
    {rest : List Char}
    (hRest : rest.head? ≠ some '?') :
    ReadAs (translate word) (word.map only) rest := by
  rw [← pieces_literal hWord]
  refine readAs_translate (fun c hc hReserved => ?_) hRest
  have hPlain := hWord c hc
  unfold IsReserved at hReserved
  simp only [globMarks, List.mem_cons, List.not_mem_nil,
    or_false, not_or] at hPlain hReserved
  simp [hPlain] at hReserved

theorem backslash_not_mem
    (hWord : ∀ c ∈ word, c ∉ globMarks) : '\\' ∉ word :=
  fun hMember => hWord _ hMember (by decide)

/- A class between literal parts is read as one piece. -/
theorem readAs_bracketed
    {front members back : List Char}
    (hFront : ∀ c ∈ front, c ∉ globMarks)
    (hBack : ∀ c ∈ back, c ∉ globMarks)
    (hSome : members ≠ [])
    (hMembers : ∀ c ∈ members, c ∉ memberMarks) :
    ReadAs (translate (bracketed front members back).toList)
      (front.map only ++
        (.one (joined .none (members.flatMap admitted)) ::
          back.map only))
      ['\\', 'z'] := by
  have hEscape : '\\' ∉ members :=
    fun hMember => hMembers _ hMember (by decide)
  have hTranslated :
      translate (bracketed front members back).toList =
        translate front ++
          ('[' :: (members.flatMap translateOne ++ [']']) ++
            translate back) := by
    have hOpen : translateOne '[' = ['['] := rfl
    have hClose : translateOne ']' = [']'] := rfl
    have hSplit := translate_append (backslash_not_mem hFront)
    have hAlone := hSplit []
    rw [List.append_nil, translate, List.append_nil] at hAlone
    unfold bracketed
    rw [String.toList_ofList, hSplit,
      translate_cons (by decide), translate_append hEscape,
      translate_cons (by decide), hAlone, hOpen, hClose]
    simp
  rw [hTranslated]
  have hLater : ReadAs (translate back) (back.map only)
      ['\\', 'z'] :=
    readAs_literal hBack (by decide)
  exact (readAs_literal hFront (by simp)).append
    ((readAs_members hSome hMembers).append hLater)

------------------------------------------------------------
-- Matching
------------------------------------------------------------

variable {chars : List Char}
variable {rs : List Regex}
variable {i j : Nat}

/- Literal parts match themselves in front of the rest. -/
theorem matchesAll_literal_append_iff :
    MatchesAll chars.toArray (word.map only ++ rs) i j ↔
      chars.drop i = word ++ chars.drop (i + word.length) ∧
        MatchesAll chars.toArray rs (i + word.length) j := by
  induction word generalizing i with
  | nil => simp
  | cons c word ih =>
      rw [List.map_cons, List.cons_append,
        matchesAll_only_cons_iff, ih, ← and_assoc,
        List.length_cons, Nat.add_assoc, Nat.add_comm 1]
      refine and_congr_left fun _ => ?_
      constructor
      · rintro ⟨hDrop, hRest⟩
        rw [hDrop, hRest, List.cons_append]
      · intro hDrop
        have hRest := (getElem?_of_drop hDrop).2
        exact ⟨hRest ▸ hDrop, hRest⟩

/- A literal part matches up to the end only itself. -/
theorem matchesAll_literal_iff
    (hStart : i ≤ chars.length) :
    (∃ j, MatchesAll chars.toArray
        (word.map only ++ [.anchor .textEnd]) i j) ↔
      chars.drop i = word := by
  simp only [matchesAll_literal_append_iff, exists_and_left]
  constructor
  · rintro ⟨hDrop, hEnd⟩
    have hLength := congrArg List.length hDrop
    rw [List.length_append, List.length_drop] at hLength
    have hInside : i + word.length ≤ chars.length := by
      omega
    rw [exists_matchesAll_textEnd_iff hInside] at hEnd
    rw [hDrop, hEnd, List.append_nil]
  · rintro rfl
    have hEnd :
        chars.drop (i + (chars.drop i).length) = [] := by
      rw [← List.drop_drop, List.drop_length]
    have hInside :
        i + (chars.drop i).length ≤ chars.length := by
      rw [List.length_drop]
      omega
    rw [exists_matchesAll_textEnd_iff hInside, hEnd,
      List.append_nil]
    exact ⟨rfl, rfl⟩

/-
  A class between literal parts matches the texts with one of
  its characters between these parts.
-/
theorem matchesAll_bracketed_iff
    {front back : List Char}
    {s : CharacterClass} :
    (∃ j, MatchesAll chars.toArray
        ((front.map only ++ (.one s :: back.map only)) ++
          [.anchor .textEnd]) 0 j) ↔
      ∃ c, s c = true ∧ chars = front ++ c :: back := by
  rw [List.append_assoc, List.cons_append]
  constructor
  · rintro ⟨j, hMatch⟩
    rcases matchesAll_literal_append_iff.1 hMatch with
      ⟨hFront, hMatch⟩
    rcases matchesAll_one_cons_iff.1 hMatch with
      ⟨c, hDrop, hAccepted, hMatch⟩
    have hBack :=
      (matchesAll_literal_iff (lt_length_of_drop hDrop)).1
        ⟨j, hMatch⟩
    rw [List.drop_zero, hDrop, hBack] at hFront
    exact ⟨c, hAccepted, hFront⟩
  · rintro ⟨c, hAccepted, rfl⟩
    have hDrop :
        (front ++ c :: back).drop (0 + front.length) =
          c :: back := by
      rw [Nat.zero_add, List.drop_left]
    have hBack := (getElem?_of_drop hDrop).2
    rcases (matchesAll_literal_iff
        (lt_length_of_drop hDrop)).2 hBack with
      ⟨j, hMatch⟩
    refine ⟨j, matchesAll_literal_append_iff.2
      ⟨?_, matchesAll_one_cons_iff.2
        ⟨c, ?_, hAccepted, hMatch⟩⟩⟩
    · rw [List.drop_zero, hDrop]
    · rw [hBack]
      exact hDrop

------------------------------------------------------------
-- Whole Patterns
------------------------------------------------------------

theorem mem_admitted_iff
    {c d : Char} :
    c ∈ admitted d ↔
      (c = d ∧ c ≠ '?') ∨
        (c = '.' ∧ (d = '*' ∨ d = '?')) := by
  unfold admitted
  by_cases hAny : d = '?'
  · subst hAny
    simp
  · have hSame : c = d ∧ c ≠ '?' ↔ c = d :=
      and_iff_left_of_imp fun h => h ▸ hAny
    rw [hSame]
    by_cases hStar : d = '*'
    · subst hStar
      simp [or_comm]
    · simp [hStar, hAny]

/-
  A class admits its members apart from a question mark, and
  a dot if there is a star or a question mark.
-/
theorem mem_flatMap_admitted_iff
    {members : List Char}
    {c : Char} :
    c ∈ members.flatMap admitted ↔
      (c ∈ members ∧ c ≠ '?') ∨
        (c = '.' ∧ ('*' ∈ members ∨ '?' ∈ members)) := by
  rw [List.mem_flatMap]
  simp only [mem_admitted_iff]
  constructor
  · rintro ⟨d, hd, ⟨rfl, hOther⟩ | ⟨hDot, rfl | rfl⟩⟩
    · exact Or.inl ⟨hd, hOther⟩
    · exact Or.inr ⟨hDot, Or.inl hd⟩
    · exact Or.inr ⟨hDot, Or.inr hd⟩
  · rintro (⟨hMember, hOther⟩ | ⟨hDot, hStar | hAny⟩)
    · exact ⟨c, hMember, Or.inl ⟨rfl, hOther⟩⟩
    · exact ⟨'*', hStar, Or.inr ⟨hDot, Or.inl rfl⟩⟩
    · exact ⟨'?', hAny, Or.inr ⟨hDot, Or.inr rfl⟩⟩

/-
  What a class admits are its members exactly if there is no
  question mark among them, and a dot with any star.
-/
theorem forall_mem_admitted_iff
    {members : List Char} :
    (∀ c, c ∈ members.flatMap admitted ↔ c ∈ members) ↔
      '?' ∉ members ∧ ('*' ∈ members → '.' ∈ members) := by
  simp only [mem_flatMap_admitted_iff]
  constructor
  · intro hAll
    constructor
    · intro hAny
      rcases (hAll '?').2 hAny with ⟨_, hOther⟩ | ⟨hDot, _⟩
      · exact hOther rfl
      · exact absurd hDot (by decide)
    · intro hStar
      exact (hAll '.').1 (Or.inr ⟨rfl, Or.inl hStar⟩)
  · rintro ⟨hAny, hStar⟩ c
    constructor
    · rintro (⟨hMember, _⟩ | ⟨rfl, hSome | hSome⟩)
      · exact hMember
      · exact hStar hSome
      · exact absurd hSome hAny
    · intro hMember
      refine Or.inl ⟨hMember, ?_⟩
      rintro rfl
      exact hAny hMember

/- One character between two parts is told by the text. -/
theorem exists_between_iff
    {front back members : List Char}
    {c : Char} :
    (∃ d ∈ members, front ++ c :: back = front ++ d :: back) ↔
      c ∈ members := by
  simp

/-
  A glob of a class in brackets between two literal parts
  makes a pattern, which matches exactly the texts with one of
  the characters between these parts that the translations of
  the members admit.  These are the members themselves only
  if there is no question mark among them, and a dot with any
  star.
-/
theorem matchesText_bracketed_iff
    (front members back : List Char)
    (hFront : ∀ c ∈ front,
      c ∉ ['\\', '*', '?', '[', ']', '^', '$'])
    (hBack : ∀ c ∈ back,
      c ∉ ['\\', '*', '?', '[', ']', '^', '$'])
    (hSome : members ≠ [])
    (hMembers : ∀ c ∈ members,
      c ∉ [']', '[', '\\', '^', '!', '-', '&', '~']) :
    ∃ pattern,
      Pattern.ofSource?
          (toSource (bracketed front members back)) false =
        some pattern ∧
      (∀ text : String,
        pattern.matchesText text = true ↔
          ∃ c ∈ members.flatMap admitted,
            text.toList = front ++ c :: back) ∧
      ((∀ text : String,
          pattern.matchesText text = true ↔
            ∃ c ∈ members,
              text.toList = front ++ c :: back) ↔
        '?' ∉ members ∧ ('*' ∈ members → '.' ∈ members)) := by
  have hBody :=
    readAs_bracketed hFront hBack hSome hMembers
  rcases exists_pattern_of_readAs hBody with
    ⟨pattern, hPattern, hMatches⟩
  have hAdmits (text : String) :
      pattern.matchesText text = true ↔
        ∃ c ∈ members.flatMap admitted,
          text.toList = front ++ c :: back := by
    rw [hMatches, matchesAll_bracketed_iff]
    simp only [joined_eq_true_iff]
    simp [CharacterClass.none]
  refine ⟨pattern, hPattern, hAdmits, ?_⟩
  rw [← forall_mem_admitted_iff]
  simp only [hAdmits]
  constructor
  · intro hAll c
    have hText := hAll (String.ofList (front ++ c :: back))
    rw [String.toList_ofList] at hText
    exact exists_between_iff.symm.trans
      (hText.trans exists_between_iff)
  · intro hSame text
    simp only [hSame]

/- A class with a star and a member that is no dot. -/
theorem matchesText_bracketed_star :
    ∃ pattern,
      Pattern.ofSource?
          (toSource (bracketed ['a'] ['*', '+'] ['b'])) false =
        some pattern ∧
      pattern.matchesText "a*b" = true ∧
      pattern.matchesText "a+b" = true ∧
      pattern.matchesText "a.b" = true ∧
      pattern.matchesText "aab" = false := by
  rcases matchesText_bracketed_iff ['a'] ['*', '+'] ['b']
      (List.forall_mem_singleton.2 (by decide))
      (List.forall_mem_singleton.2 (by decide))
      (List.cons_ne_nil _ _)
      (List.forall_mem_cons.2 ⟨by decide,
        List.forall_mem_singleton.2 (by decide)⟩) with
    ⟨pattern, hPattern, hMatches, _⟩
  refine ⟨pattern, hPattern, (hMatches _).2 ?_,
    (hMatches _).2 ?_, (hMatches _).2 ?_, ?_⟩
  · exact ⟨'*', by decide, rfl⟩
  · exact ⟨'+', by decide, rfl⟩
  · exact ⟨'.', by decide, rfl⟩
  · rw [Bool.eq_false_iff, ne_eq, hMatches]
    rintro ⟨c, hAdmitted, hText⟩
    cases hText
    exact absurd hAdmitted (by decide)

/- The question mark of a class is not matched. -/
theorem bracketed_option_unmatched :
    ¬ ∀ front members back : List Char,
      (∀ c ∈ front, c.isAlphanum = true) →
      (∀ c ∈ back, c.isAlphanum = true) →
      members ≠ [] →
      (∀ c ∈ members,
        c ∉ [']', '[', '\\', '^', '!', '-', '&', '~']) →
      ∃ pattern,
        Pattern.ofSource?
            (toSource (bracketed front members back)) false =
          some pattern ∧
        ∀ text : String,
          pattern.matchesText text = true ↔
            ∃ c ∈ members,
              text.toList = front ++ c :: back := by
  intro hAll
  rcases hAll ['a'] ['?'] ['b']
      (List.forall_mem_singleton.2 rfl)
      (List.forall_mem_singleton.2 rfl)
      (List.cons_ne_nil _ _)
      (List.forall_mem_singleton.2 (by decide)) with
    ⟨pattern, hPattern, hMatches⟩
  have hEvaluated :
      (Pattern.ofSource?
          (toSource (bracketed ['a'] ['?'] ['b'])) false).map
        (·.matchesText "a?b") = some false := by
    decide +kernel
  rw [hPattern, Option.map_some,
    (hMatches "a?b").2 ⟨'?', by decide, rfl⟩] at hEvaluated
  exact Bool.noConfusion (Option.some.inj hEvaluated)

end Glob

end TreeKeeper
