import TreeKeeper.Mode.Basic
import TreeKeeper.Proofs.Text.Pieces

/-
  The written form of symbolic modes: clauses with commas in
  between.  A clause has the letters of any number of classes
  and at least one action, and an action has a sign, and
  behind it permission letters or the letter of one class.
  Clauses are read from exactly the texts of this form.

  Key definitions include:
    * `Mode.Who`
    * `Mode.union`
    * `Mode.Action.text`
    * `Mode.Written`
    * `Mode.textOf`

  Main declarations:
    * `Mode.takeActions_eq_some_iff`
    * `Mode.Clause.ofText?_eq_some_iff`
    * `Mode.applyClauses_eq_ok_iff`
    * `Mode.applyClauses_splitOn_eq_ok_iff`
-/

------------------------------------------------------------
-- Written Clauses
------------------------------------------------------------

namespace TreeKeeper

namespace Mode

/- The sign of a change. -/
def Change.sign : Change → Char
| remove => '-'
| add => '+'
| set => '='

/- The letter of a class that is copied. -/
def Source.letter : Source → Char
| user => 'u'
| group => 'g'
| other => 'o'

/- The letter of a permission. -/
def Letter.char : Letter → Char
| read => 'r'
| write => 'w'
| execute => 'x'
| executeIfAny => 'X'
| setId => 's'
| sticky => 't'

/- Whom an action is for: one class of users, or all three. -/
inductive Who where
| only (source : Source)
| everybody
deriving DecidableEq

/- The letter of those whom an action is for. -/
def Who.letter : Who → Char
| .only source => source.letter
| everybody => 'a'

/- The bits of those whom an action is for. -/
def Who.bits : Who → UInt32
| .only .user => userBits
| .only .group => groupBits
| .only .other => otherBits
| everybody => allBits

/- The bits of several, and others. -/
def union (bits : UInt32) (classes : List Who) : UInt32 :=
  classes.foldl (fun bits who => bits ||| who.bits) bits

/- The written form of the bits that an action names. -/
def Grant.text : Grant → List Char
| letters ls => ls.map Letter.char
| copy source => [source.letter]

/- The written form of an action. -/
def Action.text (action : Action) : List Char :=
  action.change.sign :: action.grant.text

/-
  A clause as it is written, with its classes one by one and
  at least one action.
-/
structure Written where
  classes : List Who
  actions : List Action
  some_action : actions ≠ []

namespace Written

/- The written form of a clause. -/
def text (written : Written) : List Char :=
  written.classes.map Who.letter ++
    written.actions.flatMap Action.text

/- The clause that is written. -/
def clause (written : Written) : Clause where
  classes := union 0 written.classes
  actions := written.actions

end Written

/- The written form of a symbolic mode. -/
def textOf (clauses : List Written) : List Char :=
  Text.joinWith [','] (clauses.map Written.text)

------------------------------------------------------------
-- Letters And Signs
------------------------------------------------------------

theorem Change.ofSign?_eq_some_iff
    {c : Char}
    {change : Change} :
    ofSign? c = some change ↔ c = change.sign := by
  constructor
  · intro h
    unfold ofSign? at h
    split at h <;> cases h <;> rfl
  · rintro rfl
    cases change <;> rfl

theorem Source.ofLetter?_eq_some_iff
    {c : Char}
    {source : Source} :
    ofLetter? c = some source ↔ c = source.letter := by
  constructor
  · intro h
    unfold ofLetter? at h
    split at h <;> cases h <;> rfl
  · rintro rfl
    cases source <;> rfl

theorem Letter.ofChar?_eq_some_iff
    {c : Char}
    {letter : Letter} :
    ofChar? c = some letter ↔ c = letter.char := by
  constructor
  · intro h
    unfold ofChar? at h
    split at h <;> cases h <;> rfl
  · rintro rfl
    cases letter <;> rfl

theorem classBits?_eq_some_iff
    {c : Char}
    {bits : UInt32} :
    classBits? c = some bits ↔
      ∃ who : Who, c = who.letter ∧ bits = who.bits := by
  constructor
  · intro h
    unfold classBits? at h
    split at h <;> cases h
    · exact ⟨.only .user, rfl, rfl⟩
    · exact ⟨.only .group, rfl, rfl⟩
    · exact ⟨.only .other, rfl, rfl⟩
    · exact ⟨.everybody, rfl, rfl⟩
  · rintro ⟨who, rfl, rfl⟩
    cases who with
    | only source => cases source <;> rfl
    | everybody => rfl

theorem classBits?_letter (who : Who) :
    classBits? who.letter = some who.bits :=
  classBits?_eq_some_iff.2 ⟨who, rfl, rfl⟩

/- A sign is neither a class nor a permission. -/
theorem Change.sign_not_letter (change : Change) :
    classBits? change.sign = none ∧
      Source.ofLetter? change.sign = none ∧
      Letter.ofChar? change.sign = none := by
  cases change <;> exact ⟨rfl, rfl, rfl⟩

/- A permission is neither a sign nor a class. -/
theorem Letter.char_not_sign (letter : Letter) :
    Change.ofSign? letter.char = none ∧
      Source.ofLetter? letter.char = none := by
  cases letter <;> exact ⟨rfl, rfl⟩

------------------------------------------------------------
-- Reading Classes
------------------------------------------------------------

/- The letters of classes are read up to any other letter. -/
theorem takeClasses_append
    (bits : UInt32)
    (classes : List Who)
    {rest : List Char}
    (hRest : ∀ c ∈ rest.head?, classBits? c = none) :
    takeClasses bits (classes.map Who.letter ++ rest) =
      (union bits classes, rest) := by
  induction classes generalizing bits with
  | nil =>
      cases rest with
      | nil => rfl
      | cons c rest =>
          simp only [List.map_nil, List.nil_append,
            takeClasses, hRest c rfl]
          rfl
  | cons who classes ih =>
      simp only [List.map_cons, List.cons_append,
        takeClasses, classBits?_letter, ih]
      rfl

/- What is read in front of a text are classes. -/
theorem exists_of_takeClasses
    (bits : UInt32)
    (text : List Char) :
    ∃ classes : List Who,
      text =
        classes.map Who.letter ++ (takeClasses bits text).2 ∧
      (takeClasses bits text).1 = union bits classes := by
  induction text generalizing bits with
  | nil => exact ⟨[], rfl, rfl⟩
  | cons c text ih =>
      unfold takeClasses
      split
      · rename_i b hBits
        rcases classBits?_eq_some_iff.1 hBits with
          ⟨who, rfl, rfl⟩
        rcases ih (bits ||| who.bits) with
          ⟨classes, hText, hUnion⟩
        refine ⟨who :: classes, ?_, hUnion⟩
        rw [List.map_cons, List.cons_append, ← hText]
      · exact ⟨[], rfl, rfl⟩

------------------------------------------------------------
-- Reading Actions
------------------------------------------------------------

/- Whether an action may end in front of a text. -/
def Pauses (text : List Char) : Prop :=
  ∀ c ∈ text.head?, (Change.ofSign? c).isSome = true

theorem pauses_actions (actions : List Action) :
    Pauses (actions.flatMap Action.text) := by
  intro c hc
  cases actions with
  | nil => exact nomatch hc
  | cons action actions =>
      cases Option.mem_def.1 hc
      rw [Change.ofSign?_eq_some_iff.2 rfl]
      rfl

/- Permission letters are read up to a sign or to the end. -/
theorem takeLetters_append
    (ls : List Letter)
    {left : List Char}
    (hLeft : Pauses left) :
    takeLetters (ls.map Letter.char ++ left) =
      some (ls, left) := by
  induction ls with
  | nil =>
      cases left with
      | nil => rfl
      | cons c left =>
          simp only [List.map_nil, List.nil_append,
            takeLetters, hLeft c rfl, if_true]
  | cons l ls ih =>
      have hLetter : Letter.ofChar? l.char = some l :=
        Letter.ofChar?_eq_some_iff.2 rfl
      simp [takeLetters, l.char_not_sign.1, hLetter, ih]

theorem eq_of_takeLetters
    {text left : List Char}
    {ls : List Letter}
    (h : takeLetters text = some (ls, left)) :
    text = ls.map Letter.char ++ left := by
  induction text generalizing ls with
  | nil =>
      cases h
      rfl
  | cons c text ih =>
      unfold takeLetters at h
      split at h
      · cases h
        rfl
      · split at h
        · rename_i l others behind hLetter hOthers
          cases h
          rw [ih hOthers,
            Letter.ofChar?_eq_some_iff.1 hLetter]
          rfl
        · exact nomatch h

/- The bits of an action are read as they are written. -/
theorem takeGrant_append
    (grant : Grant)
    {left : List Char}
    (hLeft : Pauses left) :
    takeGrant (grant.text ++ left) = some (grant, left) := by
  cases grant with
  | copy source =>
      have hSource :
          Source.ofLetter? source.letter = some source :=
        Source.ofLetter?_eq_some_iff.2 rfl
      simp [Grant.text, takeGrant, hSource]
  | letters ls =>
      have hPlain := takeLetters_append ls hLeft
      have hNone :
          ∀ c ∈ (ls.map Letter.char ++ left).head?,
            Source.ofLetter? c = none := by
        intro c hc
        cases ls with
        | nil =>
            rcases Option.isSome_iff_exists.1 (hLeft c hc)
              with ⟨change, hChange⟩
            rw [Change.ofSign?_eq_some_iff.1 hChange]
            exact change.sign_not_letter.2.1
        | cons l ls =>
            cases Option.mem_def.1 hc
            exact l.char_not_sign.2
      unfold takeGrant Grant.text
      simp only [hPlain]
      split
      · rename_i c rest hText
        rw [hText] at hNone
        rw [hNone c rfl]
        rfl
      · rfl

theorem eq_of_takeGrant
    {text left : List Char}
    {grant : Grant}
    (h : takeGrant text = some (grant, left)) :
    text = grant.text ++ left := by
  have hPlain :
      (takeLetters text).map
          (fun taken => (Grant.letters taken.1, taken.2)) =
        some (grant, left) →
      text = grant.text ++ left := by
    intro hPlain
    rcases Option.map_eq_some_iff.1 hPlain with
      ⟨⟨ls, behind⟩, hLetters, hSame⟩
    cases hSame
    exact eq_of_takeLetters hLetters
  unfold takeGrant at h
  split at h
  · split at h
    · rename_i source hSource
      cases h
      rw [Source.ofLetter?_eq_some_iff.1 hSource]
      rfl
    · exact hPlain h
  · exact hPlain h

/- Actions are read from their written form, and no other. -/
theorem takeActions_eq_some_iff
    {fuel : Nat}
    {text : List Char}
    {actions : List Action}
    (hFuel : text.length ≤ fuel) :
    takeActions fuel text = some actions ↔
      text = actions.flatMap Action.text := by
  constructor
  · intro h
    clear hFuel
    induction fuel generalizing text actions with
    | zero =>
        cases text with
        | nil =>
            cases h
            rfl
        | cons c text => exact nomatch h
    | succ fuel ih =>
        cases text with
        | nil =>
            cases h
            rfl
        | cons c text =>
            unfold takeActions at h
            split at h
            · rename_i change grant left hChange hGrant
              rcases Option.map_eq_some_iff.1 h with
                ⟨others, hOthers, rfl⟩
              rw [Change.ofSign?_eq_some_iff.1 hChange,
                eq_of_takeGrant hGrant, ih hOthers]
              rfl
            · exact nomatch h
  · rintro rfl
    induction actions generalizing fuel with
    | nil => cases fuel <;> rfl
    | cons action actions ih =>
        have hText :
            (action :: actions).flatMap Action.text =
              action.change.sign :: (action.grant.text ++
                actions.flatMap Action.text) :=
          rfl
        rw [hText, List.length_cons,
          List.length_append] at hFuel
        have hChange :
            Change.ofSign? action.change.sign =
              some action.change :=
          Change.ofSign?_eq_some_iff.2 rfl
        have hGrant := takeGrant_append action.grant
          (pauses_actions actions)
        match fuel with
        | 0 => omega
        | fuel + 1 =>
            rw [hText, takeActions, hChange, hGrant]
            simp only
            rw [ih (by omega)]
            rfl

------------------------------------------------------------
-- Reading Clauses
------------------------------------------------------------

/- A clause is read from its written form, and no other. -/
theorem Clause.ofText?_eq_some_iff
    {text : List Char}
    {clause : Clause} :
    ofText? text = some clause ↔
      ∃ written : Written,
        text = written.text ∧ clause = written.clause := by
  constructor
  · intro h
    unfold ofText? at h
    rcases exists_of_takeClasses 0 text with
      ⟨classes, hText, hUnion⟩
    generalize takeClasses 0 text = taken at *
    rcases taken with ⟨bits, rest⟩
    simp only at h hText hUnion
    split at h
    · rename_i action actions hActions
      cases h
      have hRest :=
        (takeActions_eq_some_iff (Nat.le_refl _)).1 hActions
      refine ⟨⟨classes, action :: actions,
        List.cons_ne_nil _ _⟩, ?_, ?_⟩
      · rw [hText, hRest]
        rfl
      · rw [hUnion]
        rfl
    · exact nomatch h
  · rintro ⟨⟨classes, actions, hSome⟩, rfl, rfl⟩
    have hRest :
        ∀ c ∈ (actions.flatMap Action.text).head?,
          classBits? c = none := by
      intro c hc
      rcases Option.isSome_iff_exists.1
          (pauses_actions actions c hc) with
        ⟨change, hChange⟩
      rw [Change.ofSign?_eq_some_iff.1 hChange]
      exact change.sign_not_letter.1
    have hActions :=
      (takeActions_eq_some_iff (Nat.le_refl _)).2
        (Eq.refl (actions.flatMap Action.text))
    unfold ofText? Written.text
    rw [takeClasses_append 0 classes hRest]
    simp only [hActions]
    cases actions with
    | nil => exact absurd rfl hSome
    | cons action actions => rfl

/- Clauses are applied in the order they are written in. -/
theorem applyClauses_eq_ok_iff
    {mode result : UInt32}
    {texts : List (List Char)} :
    applyClauses mode texts = .ok result ↔
      ∃ clauses : List Written,
        texts = clauses.map Written.text ∧
        result =
          clauses.foldl
            (fun mode written => written.clause.apply mode)
            mode := by
  induction texts generalizing mode with
  | nil =>
      constructor
      · intro h
        cases h
        exact ⟨[], rfl, rfl⟩
      · rintro ⟨clauses, hTexts, rfl⟩
        rw [List.map_eq_nil_iff.1 hTexts.symm]
        rfl
  | cons text texts ih =>
      constructor
      · intro h
        unfold applyClauses at h
        split at h
        · rename_i clause hClause
          rcases Clause.ofText?_eq_some_iff.1 hClause with
            ⟨written, rfl, rfl⟩
          rcases ih.1 h with ⟨clauses, rfl, rfl⟩
          exact ⟨written :: clauses, rfl, rfl⟩
        · exact nomatch h
      · rintro ⟨clauses, hTexts, rfl⟩
        cases clauses with
        | nil => exact nomatch hTexts
        | cons written clauses =>
            cases hTexts
            have hClause :
                Clause.ofText? written.text =
                  some written.clause :=
              Clause.ofText?_eq_some_iff.2 ⟨_, rfl, rfl⟩
            unfold applyClauses
            rw [hClause]
            exact ih.2 ⟨clauses, rfl, rfl⟩

------------------------------------------------------------
-- Symbolic Modes
------------------------------------------------------------

/- No comma and no digit occurs in the text of a clause. -/
theorem Written.ne_of_mem_text
    {written : Written}
    {c : Char}
    (hc : c ∈ written.text) :
    c ≠ ',' ∧ c.isDigit = false := by
  have hSource :
      ∀ source : Source,
        source.letter ≠ ',' ∧
          source.letter.isDigit = false := by
    intro source
    cases source <;> decide
  rcases List.mem_append.1 hc with hc | hc
  · rcases List.mem_map.1 hc with ⟨who, _, rfl⟩
    cases who with
    | only source => exact hSource source
    | everybody => decide
  · rcases List.mem_flatMap.1 hc with ⟨action, _, hc⟩
    rcases List.mem_cons.1 hc with rfl | hc
    · cases action.change <;> decide
    · cases hGrant : action.grant with
      | letters ls =>
          rw [hGrant] at hc
          rcases List.mem_map.1 hc with ⟨letter, _, rfl⟩
          cases letter <;> decide
      | copy source =>
          rw [hGrant] at hc
          rw [List.mem_singleton.1 hc]
          exact hSource source

/- A clause has an action, and so a text. -/
theorem Written.text_ne_nil (written : Written) :
    written.text ≠ [] := by
  rcases written with ⟨classes, actions, hSome⟩
  cases actions with
  | nil => exact absurd rfl hSome
  | cons action actions => simp [text, Action.text]

/- A symbolic mode begins with its first clause. -/
theorem exists_textOf_eq_cons
    {clauses : List Written}
    (hSome : clauses ≠ []) :
    ∃ c rest,
      textOf clauses = c :: rest ∧ c.isDigit = false := by
  cases clauses with
  | nil => exact absurd rfl hSome
  | cons written clauses =>
      rcases List.exists_cons_of_ne_nil written.text_ne_nil
        with ⟨c, rest, hText⟩
      have hFirst : c.isDigit = false := by
        refine (written.ne_of_mem_text ?_).2
        rw [hText]
        exact List.mem_cons_self
      cases clauses with
      | nil => exact ⟨c, rest, hText, hFirst⟩
      | cons next clauses =>
          refine ⟨c, rest ++ [','] ++
            Text.joinWith [',']
              ((next :: clauses).map Written.text), ?_,
            hFirst⟩
          simp only [textOf, List.map_cons, Text.joinWith,
            hText, List.cons_append]

/-
  The pieces between the commas of a text are applied if the
  text is written for clauses, and otherwise refused.
-/
theorem applyClauses_splitOn_eq_ok_iff
    {mode result : UInt32}
    {text : List Char} :
    applyClauses mode (Text.splitOn ',' text) = .ok result ↔
      ∃ clauses : List Written,
        clauses ≠ [] ∧ text = textOf clauses ∧
        result =
          clauses.foldl
            (fun mode written => written.clause.apply mode)
            mode := by
  rw [applyClauses_eq_ok_iff]
  constructor
  · rintro ⟨clauses, hPieces, hResult⟩
    refine ⟨clauses, ?_, ?_, hResult⟩
    · rintro rfl
      exact Text.splitOn_ne_nil hPieces
    · unfold textOf
      rw [← hPieces, Text.joinWith_splitOn]
  · rintro ⟨clauses, hSome, rfl, hResult⟩
    refine ⟨clauses, ?_, hResult⟩
    apply Text.splitOn_joinWith
    · simpa using hSome
    · intro piece hPiece
      rcases List.mem_map.1 hPiece with ⟨written, _, rfl⟩
      intro hComma
      exact (written.ne_of_mem_text hComma).1 rfl

end Mode

end TreeKeeper
