import TreeKeeper.Window.Basic
import TreeKeeper.Proofs.Outcome
import TreeKeeper.Proofs.Text.Numeral

/-
  The written form of windows: a sign, decimal digits with any
  number of leading zeros, and a suffix that no digit begins.
  A window is read from exactly the texts of this form, as
  long as the number fits 64 bits.

  Key definitions include:
    * `Qualifier.sign`
    * `Window.Spells`

  Main declarations:
    * `Window.spells_iff`
    * `Window.Spells.unique`
    * `Window.ofText_eq_ok_iff`
    * `Window.ofWholeText_eq_ok_iff`
-/

------------------------------------------------------------
-- Written Windows
------------------------------------------------------------

namespace TreeKeeper

/- The sign that stands for a qualifier. -/
def Qualifier.sign : Qualifier → List Char
| .exactly => []
| .moreThan => ['+']
| .lessThan => ['-']

namespace Window

/-
  Whether a text consists of the sign of a qualifier, decimal
  digits for a number, and a suffix.
-/
def Spells
    (text : String)
    (qualifier : Qualifier)
    (magnitude : Nat)
    (suffix : String) : Prop :=
  ∃ digits : List Char,
    text.toList =
      qualifier.sign ++ (digits ++ suffix.toList) ∧
    digits ≠ [] ∧
    (∀ d ∈ digits, d.isDigit = true) ∧
    (∀ c ∈ suffix.toList.head?, c.isDigit = false) ∧
    Nat.ofDigitChars 10 digits 0 = magnitude

variable {text suffix : String}
variable {qualifier : Qualifier}
variable {magnitude : Nat}

/- The sign that was split off stood in front. -/
theorem sign_append_splitSign (text : List Char) :
    (splitSign text).1.sign ++ (splitSign text).2 = text := by
  unfold splitSign
  split <;> rfl

/- In front of a digit, a sign is split off. -/
theorem splitSign_sign_append
    {d : Char}
    (hDigit : d.isDigit = true)
    (rest : List Char) :
    splitSign (qualifier.sign ++ d :: rest) =
      (qualifier, d :: rest) := by
  cases qualifier with
  | exactly =>
      unfold splitSign Qualifier.sign
      split
      · rename_i heq
        cases heq
        exact absurd hDigit (by decide)
      · rename_i heq
        cases heq
        exact absurd hDigit (by decide)
      · rfl
  | moreThan => rfl
  | lessThan => rfl

/- A run of digits ends where a suffix begins. -/
theorem takeWhile_digits
    {digits rest : List Char}
    (hDigits : ∀ d ∈ digits, d.isDigit = true)
    (hRest : ∀ c ∈ rest.head?, c.isDigit = false) :
    (digits ++ rest).takeWhile Char.isDigit = digits ∧
      (digits ++ rest).dropWhile Char.isDigit = rest := by
  rw [List.takeWhile_append_of_pos hDigits,
    List.dropWhile_append_of_pos hDigits]
  cases rest with
  | nil => exact ⟨List.append_nil digits, rfl⟩
  | cons c rest =>
      have hHead : ¬ c.isDigit = true := by
        rw [hRest c rfl]
        exact Bool.false_ne_true
      rw [List.takeWhile_cons_of_neg hHead,
        List.dropWhile_cons_of_neg hHead]
      exact ⟨List.append_nil digits, rfl⟩

/- The parts of a written window are those it is split into. -/
theorem spells_iff :
    Spells text qualifier magnitude suffix ↔
      (splitSign text.toList).1 = qualifier ∧
      (splitSign text.toList).2.takeWhile Char.isDigit ≠
        [] ∧
      Nat.ofDigitChars 10
          ((splitSign text.toList).2.takeWhile Char.isDigit)
          0 =
        magnitude ∧
      String.ofList
          ((splitSign text.toList).2.dropWhile
            Char.isDigit) =
        suffix := by
  constructor
  · rintro ⟨digits, hText, hSome, hDigits, hSuffix, hNumber⟩
    have hSplit :
        splitSign text.toList =
          (qualifier, digits ++ suffix.toList) := by
      cases digits with
      | nil => exact absurd rfl hSome
      | cons d digits =>
          rw [hText]
          exact splitSign_sign_append
            (hDigits d List.mem_cons_self) _
    rcases takeWhile_digits hDigits hSuffix with
      ⟨hTaken, hDropped⟩
    rw [hSplit, hTaken, hDropped]
    exact ⟨rfl, hSome, hNumber, String.ofList_toList⟩
  · rintro ⟨rfl, hSome, rfl, rfl⟩
    refine ⟨_, ?_, hSome, ?_, ?_, rfl⟩
    · rw [String.toList_ofList,
        List.takeWhile_append_dropWhile,
        sign_append_splitSign]
    · exact List.all_eq_true.1 List.all_takeWhile
    · rw [String.toList_ofList]
      intro c hc
      have hFirst := List.head?_dropWhile_not Char.isDigit
        (splitSign text.toList).2
      rw [Option.mem_def.1 hc] at hFirst
      exact hFirst

/- A text is written for at most one window. -/
theorem Spells.unique
    {qualifier' : Qualifier}
    {magnitude' : Nat}
    {suffix' : String}
    (hFirst : Spells text qualifier magnitude suffix)
    (hSecond : Spells text qualifier' magnitude' suffix') :
    qualifier = qualifier' ∧ magnitude = magnitude' ∧
      suffix = suffix' := by
  rw [spells_iff] at hFirst hSecond
  rcases hFirst with ⟨hSign, _, hNumber, hRest⟩
  rcases hSecond with ⟨hSign', _, hNumber', hRest'⟩
  exact ⟨hSign.symm.trans hSign',
    hNumber.symm.trans hNumber', hRest.symm.trans hRest'⟩

------------------------------------------------------------
-- Reading
------------------------------------------------------------

/- Decimal digits are read as the number they stand for. -/
theorem unsigned?_digits
    {digits : List Char}
    (hSome : digits ≠ [])
    (hDigits : ∀ d ∈ digits, d.isDigit = true)
    (bound : Nat) :
    Numeral.unsigned? 10 bound digits =
      Numeral.below? bound (Nat.ofDigitChars 10 digits 0) := by
  have hRead :
      Numeral.ofDigits? 10 digits =
        some (Nat.ofDigitChars 10 digits 0) := by
    unfold Numeral.ofDigits?
    rw [if_neg (by simpa using hSome),
      Numeral.extend?_ten 0 hDigits]
  unfold Numeral.unsigned?
  split
  · have hPlus := hDigits '+' List.mem_cons_self
    exact absurd hPlus (by decide)
  · rw [hRead]
    rfl

/- A number that fits 64 bits is read as it is written. -/
theorem ofText_of_spells
    (hSpells : Spells text qualifier magnitude suffix)
    (hFits : magnitude < UInt64.size) :
    ofText text = .ok {
      qualifier := qualifier
      magnitude := UInt64.ofNat magnitude
      suffix := suffix } := by
  rcases spells_iff.1 hSpells with ⟨rfl, hSome, rfl, rfl⟩
  have hNumber := unsigned?_digits hSome
    (List.all_eq_true.1 List.all_takeWhile) UInt64.size
  rw [Numeral.below?_eq_some hFits] at hNumber
  unfold ofText
  dsimp only
  rw [if_neg (by simpa using hSome), hNumber]

/-
  A window is read from the texts that are written for it and
  from no others.
-/
theorem ofText_eq_ok_iff
    {window : Window} :
    ofText text = .ok window ↔
      Spells text window.qualifier window.magnitude.toNat
        window.suffix := by
  constructor
  · intro h
    unfold ofText at h
    dsimp only at h
    split at h
    · exact nomatch h
    · rename_i hNone
      have hSome :
          (splitSign text.toList).2.takeWhile
            Char.isDigit ≠ [] := by
        simpa using hNone
      rw [unsigned?_digits hSome
        (List.all_eq_true.1 List.all_takeWhile)] at h
      unfold Numeral.below? at h
      split at h
      · exact nomatch h
      · rename_i n hBelow
        split at hBelow
        · rename_i hFits
          cases hBelow
          cases h
          refine spells_iff.2 ⟨rfl, hSome, ?_, rfl⟩
          exact (UInt64.toNat_ofNat_of_lt' hFits).symm
        · exact nomatch hBelow
  · intro hSpells
    rw [ofText_of_spells hSpells window.magnitude.toNat_lt,
      UInt64.ofNat_toNat]

/- Nothing may follow where a window is all of a text. -/
theorem ofWholeText_eq_ok_iff
    {window : Window} :
    ofWholeText text = .ok window ↔
      Spells text window.qualifier window.magnitude.toNat
          "" ∧
        window.suffix = "" := by
  unfold ofWholeText
  rw [bind_eq_ok_iff]
  constructor
  · rintro ⟨read, hRead, hWhole⟩
    split at hWhole
    · rename_i hSuffix
      cases hWhole
      have hSpells := ofText_eq_ok_iff.1 hRead
      rw [hSuffix] at hSpells
      exact ⟨hSpells, hSuffix⟩
    · exact nomatch hWhole
  · rintro ⟨hSpells, hSuffix⟩
    rw [← hSuffix] at hSpells
    refine ⟨window, ofText_eq_ok_iff.2 hSpells, ?_⟩
    rw [if_pos hSuffix]
    rfl

end Window

end TreeKeeper
