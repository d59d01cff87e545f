import TreeKeeper.Proofs.Mode.Bits

/-
  Modes are read from octal numerals that fit twelve bits and
  from symbolic modes, and from no other text.  A symbolic
  mode gives the mode that its actions lead to, one after the
  other, from the empty mode.

  Key definitions include:
    * `Mode.SpellsOctal`

  Main declarations:
    * `Mode.ofOctal_eq_ok_iff`
    * `Mode.ofText_eq_ok_iff_written`
-/

------------------------------------------------------------
-- Octal Modes
------------------------------------------------------------

namespace TreeKeeper

namespace Mode

/- Whether a text is an octal numeral of a number. -/
def SpellsOctal (text : String) (n : Nat) : Prop :=
  text.toList ≠ [] ∧
    (∀ c ∈ text.toList, '0' ≤ c ∧ c ≤ '7') ∧
    Nat.ofDigitChars 8 text.toList 0 = n

theorem digit?_eight_eq_some_iff
    {c : Char}
    {d : Nat} :
    Numeral.digit? 8 c = some d ↔
      ('0' ≤ c ∧ c ≤ '7') ∧ c.toNat - '0'.toNat = d := by
  have hOrder : ∀ b : Char, b ≤ c ↔ b.toNat ≤ c.toNat :=
    fun _ => Iff.rfl
  have hBelow : ∀ b : Char, c ≤ b ↔ c.toNat ≤ b.toNat :=
    fun _ => Iff.rfl
  have hLetters :
      '0'.toNat = 48 ∧ '7'.toNat = 55 ∧ '9'.toNat = 57 ∧
        'a'.toNat = 97 ∧ 'A'.toNat = 65 := by
    decide
  rcases hLetters with ⟨hZero, hSeven, hNine, ha, hA⟩
  unfold Numeral.digit?
  simp only [hOrder, hBelow, hZero, hSeven, hNine, ha, hA]
  grind

/- Octal digits extend a value as positions of a numeral. -/
theorem extend?_eight_eq_some_iff
    {value n : Nat}
    {text : List Char} :
    Numeral.extend? 8 value text = some n ↔
      (∀ c ∈ text, '0' ≤ c ∧ c ≤ '7') ∧
        Nat.ofDigitChars 8 text value = n := by
  induction text generalizing value with
  | nil => simp [Numeral.extend?]
  | cons c text ih =>
      rw [Numeral.extend?, List.forall_mem_cons,
        Nat.ofDigitChars_cons]
      cases hDigit : Numeral.digit? 8 c with
      | none =>
          have hNot : ¬ ('0' ≤ c ∧ c ≤ '7') := by
            intro hOctal
            rw [digit?_eight_eq_some_iff.2
              ⟨hOctal, rfl⟩] at hDigit
            exact nomatch hDigit
          simp [hNot]
      | some d =>
          rcases digit?_eight_eq_some_iff.1 hDigit with
            ⟨hOctal, rfl⟩
          rw [Nat.mul_comm 8 value]
          simp [ih, hOctal]

/- An octal mode is a numeral of at most twelve bits. -/
theorem ofOctal_eq_ok_iff
    {text : String}
    {mode : UInt32}
    (hPlus : text.toList.head? ≠ some '+') :
    ofOctal text = .ok mode ↔
      SpellsOctal text mode.toNat ∧
        mode.toNat ≤ 0o7777 := by
  have hRead :
      Numeral.unsigned? 8 UInt32.size text.toList =
        (Numeral.ofDigits? 8 text.toList).bind
          (Numeral.below? UInt32.size) := by
    unfold Numeral.unsigned?
    split
    · rename_i rest hText
      rw [hText] at hPlus
      exact absurd rfl hPlus
    · rfl
  have hDigits (n : Nat) :
      Numeral.ofDigits? 8 text.toList = some n ↔
        SpellsOctal text n := by
    unfold Numeral.ofDigits? SpellsOctal
    cases hText : text.toList with
    | nil => simp
    | cons c rest =>
        rw [if_neg (by simp), extend?_eight_eq_some_iff]
        simp
  unfold ofOctal
  rw [hRead]
  constructor
  · intro h
    split at h
    · exact nomatch h
    · rename_i n hNumber
      split at h
      · exact nomatch h
      · cases h
        rcases Option.bind_eq_some_iff.1 hNumber with
          ⟨value, hValue, hBelow⟩
        unfold Numeral.below? at hBelow
        split at hBelow
        · rename_i hLarge hFits
          cases hBelow
          rw [UInt32.toNat_ofNat_of_lt' hFits]
          exact ⟨(hDigits _).1 hValue, Nat.not_lt.1 hLarge⟩
        · exact nomatch hBelow
  · rintro ⟨hSpells, hFits⟩
    rw [(hDigits _).2 hSpells, Option.bind_some,
      Numeral.below?, if_pos mode.toNat_lt]
    simp only
    rw [if_neg (Nat.not_lt.2 hFits), UInt32.ofNat_toNat]

------------------------------------------------------------
-- Modes
------------------------------------------------------------

/- A mode that is read from clauses is what they lead to. -/
theorem applyClauses_eq_ok_iff_leads
    {mode : UInt32}
    {text : List Char} :
    applyClauses 0 (Text.splitOn ',' text) = .ok mode ↔
      ∃ clauses : List Written,
        clauses ≠ [] ∧ text = textOf clauses ∧
        Leads (actionsOf clauses) 0 mode := by
  rw [applyClauses_splitOn_eq_ok_iff]
  constructor
  · rintro ⟨clauses, hSome, hText, rfl⟩
    exact ⟨clauses, hSome, hText, leads_apply clauses 0⟩
  · rintro ⟨clauses, hSome, hText, hLeads⟩
    exact ⟨clauses, hSome, hText,
      hLeads.unique (leads_apply clauses 0)⟩

/-
  A digit in front tells an octal mode from a symbolic one,
  so that a text is at most one of both.
-/
theorem ofText_eq_ok_iff
    {text : String}
    {mode : UInt32} :
    ofText text = .ok mode ↔
      (SpellsOctal text mode.toNat ∧ mode.toNat ≤ 0o7777) ∨
        ∃ clauses : List Written,
          clauses ≠ [] ∧ text.toList = textOf clauses ∧
          Leads (actionsOf clauses) 0 mode := by
  unfold ofText
  split
  · rename_i hText
    constructor
    · exact nofun
    · rintro (⟨⟨hSome, _⟩, _⟩ | ⟨clauses, hSome, hClauses, _⟩)
      · exact absurd hText hSome
      · rcases exists_textOf_eq_cons hSome with
          ⟨c, rest, hCons, _⟩
        rw [← hClauses, hText] at hCons
        exact nomatch hCons
  · rename_i c rest hText
    split
    · rename_i hDigit
      have hPlus : text.toList.head? ≠ some '+' := by
        rw [hText]
        rintro hSame
        cases hSame
        exact absurd hDigit (by decide)
      rw [ofOctal_eq_ok_iff hPlus]
      refine (or_iff_left ?_).symm
      rintro ⟨clauses, hSome, hClauses, _⟩
      rcases exists_textOf_eq_cons hSome with
        ⟨first, others, hCons, hLetter⟩
      rw [← hClauses, hText] at hCons
      cases hCons
      rw [hDigit] at hLetter
      exact nomatch hLetter
    · rename_i hLetter
      rw [← hText, applyClauses_eq_ok_iff_leads]
      refine (or_iff_right ?_).symm
      rintro ⟨⟨_, hDigits, _⟩, _⟩
      rw [hText] at hDigits
      apply hLetter
      rcases hDigits c List.mem_cons_self with ⟨hZero, hSeven⟩
      have hNine : c ≤ '9' :=
        Char.le_trans hSeven (by decide)
      exact Char.isDigit_iff_toNat.2 ⟨hZero, hNine⟩

/-
  A text is a mode if it is an octal numeral of at most
  twelve bits or is written for clauses.  It then stands for
  the number, or for what the actions of the clauses lead to
  from the empty mode, which has at most twelve bits too.
-/
theorem ofText_eq_ok_iff_written (text : String) :
    ((∃ mode, ofText text = .ok mode) ↔
      (∃ n ≤ 0o7777, SpellsOctal text n) ∨
        ∃ clauses : List Written,
          clauses ≠ [] ∧ text.toList = textOf clauses) ∧
    ∀ mode,
      ofText text = .ok mode ↔
        mode.toNat ≤ 0o7777 ∧
        (SpellsOctal text mode.toNat ∨
          ∃ clauses : List Written,
            clauses ≠ [] ∧ text.toList = textOf clauses ∧
            Leads (actionsOf clauses) 0 mode) := by
  have hNone : ∀ bit, Has 0 bit → bit < 12 :=
    fun _ h => absurd h not_has_zero
  constructor
  · simp only [ofText_eq_ok_iff]
    constructor
    · rintro ⟨mode, ⟨hSpells, hFits⟩ | ⟨clauses, hClauses⟩⟩
      · exact .inl ⟨mode.toNat, hFits, hSpells⟩
      · exact .inr ⟨clauses, hClauses.1, hClauses.2.1⟩
    · rintro (⟨n, hFits, hSpells⟩ | ⟨clauses, hSome, hText⟩)
      · have hNumber : (UInt32.ofNat n).toNat = n := by
          apply UInt32.toNat_ofNat_of_lt'
          exact Nat.lt_of_le_of_lt hFits (by decide)
        refine ⟨UInt32.ofNat n, .inl ?_⟩
        rw [hNumber]
        exact ⟨hSpells, hFits⟩
      · exact ⟨_, .inr ⟨clauses, hSome, hText,
          leads_apply clauses 0⟩⟩
  · intro mode
    rw [ofText_eq_ok_iff]
    constructor
    · rintro (⟨hSpells, hFits⟩ | ⟨clauses, hClauses⟩)
      · exact ⟨hFits, .inl hSpells⟩
      · exact ⟨hClauses.2.2.le_allBits hNone,
          .inr ⟨clauses, hClauses⟩⟩
    · rintro ⟨hFits, hSpells | hClauses⟩
      · exact .inl ⟨hSpells, hFits⟩
      · exact .inr hClauses

example :
    ofText "u+rwxs,g=u,o-w+X" = .ok 0o4771 := by
  rfl

end Mode

end TreeKeeper
