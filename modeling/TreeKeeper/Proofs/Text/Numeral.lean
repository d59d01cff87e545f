import TreeKeeper.Text.Numeral

/-
  Decimal numerals: reading what is written for a number
  gives the number, for natural numbers of any size and for
  machine words with and without a sign.

  Main declarations:
    * `Numeral.extend?_ten`
    * `Numeral.toString_injective`
    * `Numeral.unsigned?_toDigits`
    * `Numeral.toList_toString`
    * `Numeral.word64?_toString`
    * `Numeral.integer64?_toString`
-/

------------------------------------------------------------
-- Digits
------------------------------------------------------------

namespace TreeKeeper

namespace Numeral

theorem digit?_ten
    {c : Char}
    (hDigit : c.isDigit = true) :
    digit? 10 c = some (c.toNat - '0'.toNat) := by
  rcases Char.isDigit_iff_toNat.1 hDigit with
    ⟨hLower, hUpper⟩
  have hBounds : '0' ≤ c ∧ c ≤ '9' := ⟨hLower, hUpper⟩
  have hValue : c.toNat - '0'.toNat < 10 := by
    have hNine : '9'.toNat = 57 := rfl
    have hZero : '0'.toNat = 48 := rfl
    omega
  unfold digit?
  rw [if_pos hBounds]
  exact if_pos hValue

/- Digits extend a value as positions of a numeral. -/
theorem extend?_ten
    (value : Nat)
    {text : List Char}
    (hDigits : ∀ c ∈ text, c.isDigit = true) :
    extend? 10 value text =
      some (Nat.ofDigitChars 10 text value) := by
  induction text generalizing value with
  | nil => rfl
  | cons c text ih =>
      have hHead : c.isDigit = true :=
        hDigits c List.mem_cons_self
      have hTail : ∀ d ∈ text, d.isDigit = true :=
        fun d hd => hDigits d (List.mem_cons_of_mem c hd)
      rw [extend?, digit?_ten hHead,
        Nat.ofDigitChars_cons, Nat.mul_comm 10 value]
      exact ih _ hTail

theorem ofDigits?_toDigits (n : Nat) :
    ofDigits? 10 (Nat.toDigits 10 n) = some n := by
  have hDigits :
      ∀ c ∈ Nat.toDigits 10 n, c.isDigit = true :=
    fun c hc =>
      Nat.isDigit_of_mem_toDigits (by omega) (by omega) hc
  unfold ofDigits?
  rw [if_neg (by simp), extend?_ten 0 hDigits,
    Nat.ofDigitChars_ten_toDigits]

/- The numerals of different numbers are different. -/
theorem toString_injective
    {m n : Nat}
    (hSame : toString m = toString n) : m = n := by
  have hDigits : Nat.toDigits 10 m = Nat.toDigits 10 n := by
    rw [← Nat.toList_repr, ← Nat.toList_repr]
    exact congrArg String.toList hSame
  have hRead := ofDigits?_toDigits m
  rw [hDigits, ofDigits?_toDigits] at hRead
  exact (Option.some.inj hRead).symm

/- No digit is a sign, so a numeral has none in front. -/
theorem exists_toDigits_eq_cons (n : Nat) :
    ∃ c text, Nat.toDigits 10 n = c :: text ∧
      c ≠ '+' ∧ c ≠ '-' := by
  cases hText : Nat.toDigits 10 n with
  | nil => exact absurd hText Nat.toDigits_ne_nil
  | cons c text =>
      have hMember : c ∈ Nat.toDigits 10 n := by
        rw [hText]
        exact List.mem_cons_self
      have hDigit : c.isDigit = true :=
        Nat.isDigit_of_mem_toDigits (by omega) (by omega)
          hMember
      refine ⟨c, text, rfl, ?_, ?_⟩
      · rintro rfl
        exact absurd hDigit (by decide)
      · rintro rfl
        exact absurd hDigit (by decide)

------------------------------------------------------------
-- Signs And Ranges
------------------------------------------------------------

theorem below?_eq_some
    {bound value : Nat}
    (h : value < bound) :
    below? bound value = some value :=
  if_pos h

/- A numeral below the bound is read back. -/
theorem unsigned?_toDigits
    {bound n : Nat}
    (h : n < bound) :
    unsigned? 10 bound (Nat.toDigits 10 n) = some n := by
  rcases exists_toDigits_eq_cons n with
    ⟨c, text, hText, hPlus, _⟩
  have hRead :
      unsigned? 10 bound (Nat.toDigits 10 n) =
        (ofDigits? 10 (Nat.toDigits 10 n)).bind
          (below? bound) := by
    rw [hText]
    unfold unsigned?
    split
    · rename_i rest hEq
      exact absurd (List.cons.inj hEq).1 hPlus
    · rfl
  rw [hRead, ofDigits?_toDigits]
  exact below?_eq_some h

theorem signed?_toDigits
    {bound n : Nat}
    (h : n < bound) :
    signed? 10 bound (Nat.toDigits 10 n) =
      some (n : Int) := by
  rcases exists_toDigits_eq_cons n with
    ⟨c, text, hText, _, hMinus⟩
  have hRead :
      signed? 10 bound (Nat.toDigits 10 n) =
        (unsigned? 10 bound (Nat.toDigits 10 n)).map
          Int.ofNat := by
    rw [hText]
    unfold signed?
    split
    · rename_i rest hEq
      exact absurd (List.cons.inj hEq).1 hMinus
    · rfl
  rw [hRead, unsigned?_toDigits h]
  rfl

theorem signed?_minus_toDigits
    {bound n : Nat}
    (h : n ≤ bound) :
    signed? 10 bound ('-' :: Nat.toDigits 10 n) =
      some (-(n : Int)) := by
  have hBelow : below? (bound + 1) n = some n :=
    below?_eq_some (by omega)
  simp [signed?, ofDigits?_toDigits, hBelow]

/- An integer is written with at most one sign. -/
theorem toList_toString (n : Int) :
    (toString n).toList =
      if 0 ≤ n then Nat.toDigits 10 n.toNat
      else '-' :: Nat.toDigits 10 (-n).toNat := by
  rw [Int.toString_eq_repr, Int.repr_eq_if]
  by_cases hSign : 0 ≤ n
  · rw [if_pos hSign, if_pos hSign]
    exact Nat.toList_repr
  · rw [if_neg hSign, if_neg hSign, String.toList_append,
      Nat.toList_repr]
    rfl

------------------------------------------------------------
-- Machine Words
------------------------------------------------------------

/- Reading the numeral of an unsigned word gives the word. -/
theorem word64?_toString (n : UInt64) :
    word64? (toString n.toNat) = some n := by
  have hText :
      (toString n.toNat).toList = Nat.toDigits 10 n.toNat :=
    Nat.toList_repr
  unfold word64?
  rw [hText, unsigned?_toDigits n.toNat_lt]
  exact congrArg some (UInt64.ofNat_toNat)

/- Reading the numeral of a signed word gives the word. -/
theorem integer64?_toString (i : Int64) :
    integer64? (toString i.toInt) = some i := by
  have hUpper : i.toInt < 2 ^ 63 := i.toInt_lt
  have hLower : -2 ^ 63 ≤ i.toInt := i.le_toInt
  unfold integer64?
  rw [toList_toString]
  by_cases hSign : 0 ≤ i.toInt
  · have hValue : (i.toInt.toNat : Int) = i.toInt :=
      Int.toNat_of_nonneg hSign
    rw [if_pos hSign, signed?_toDigits (by omega), hValue]
    exact congrArg some i.ofInt_toInt
  · have hValue : -((-i.toInt).toNat : Int) = i.toInt := by
      omega
    rw [if_neg hSign, signed?_minus_toDigits (by omega),
      hValue]
    exact congrArg some i.ofInt_toInt

end Numeral

end TreeKeeper
