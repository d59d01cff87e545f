import TreeKeeper.Entry.Record
import TreeKeeper.Proofs.Text.Numeral

/-
  Strings and numbers of JSON texts that are written and read
  again.  What is read is what was written, with the text
  behind it left over, and control characters are never
  written.

  Key definitions include:
    * `Json.IsPrintable`
    * `Json.EndsNumber`

  Main declarations:
    * `Json.readString_escape`
    * `Json.isPrintable_renderString`
    * `Json.readNumber_toString`
    * `Json.isPrintable_toString`
-/

------------------------------------------------------------
-- Strings
------------------------------------------------------------

namespace TreeKeeper

namespace Json

/- A control character is read from its two digits. -/
theorem ofDigits?_hexDigits :
    ∀ n < 32,
      Numeral.ofDigits? 16
        ['0', '0', hexDigit (n / 16), hexDigit (n % 16)] =
          some n := by
  decide

/-
  A character of a string is read as a piece that stands for
  it.
-/
theorem readPieces_escapeChar
    (c : Char)
    (text : List Char) :
    ∃ piece,
      readPieces (escapeChar c ++ text) =
        consPiece piece (readPieces text) ∧
      ∀ pieces,
        joinPieces (piece :: pieces) =
          (joinPieces pieces).map (c :: ·) := by
  unfold escapeChar
  split
  · exact ⟨.char '"', rfl, fun _ => rfl⟩
  · exact ⟨.char '\\', rfl, fun _ => rfl⟩
  · exact ⟨.char '\x08', rfl, fun _ => rfl⟩
  · exact ⟨.char '\x0c', rfl, fun _ => rfl⟩
  · exact ⟨.char '\n', rfl, fun _ => rfl⟩
  · exact ⟨.char '\r', rfl, fun _ => rfl⟩
  · exact ⟨.char '\t', rfl, fun _ => rfl⟩
  · rename_i hQuote hSlash _ _ _ _ _
    by_cases hControl : c.toNat < 32
    · rw [if_pos hControl]
      refine ⟨.unit c.toNat, ?_, ?_⟩
      · simp only [List.cons_append, List.nil_append]
        rw [readPieces, ofDigits?_hexDigits _ hControl]
      · intro pieces
        have hTrailing : isTrailing c.toNat = false := by
          unfold isTrailing
          simp
          omega
        have hLeading : isLeading c.toNat = false := by
          unfold isLeading
          simp
          omega
        rw [joinPieces.eq_def]
        simp [hTrailing, hLeading, Char.ofNat_toNat]
    · rw [if_neg hControl]
      have hOther : c ≠ '\\' := hSlash
      have hPlain :
          ¬ (decide (c.toNat < 32) ||
            decide (c = '\\')) = true := by
        simp [hControl, hOther]
      refine ⟨.char c, ?_, fun _ => rfl⟩
      rw [List.cons_append, List.nil_append,
        readPieces.eq_def]
      split
      · rename_i hText
        exact nomatch hText
      · rename_i hText
        exact absurd (List.cons.inj hText).1 hSlash
      · rename_i hText
        exact absurd (List.cons.inj hText).1 hSlash
      · rename_i hText
        cases hText
        rw [if_neg hQuote, if_neg hPlain]

/- A string is read up to its quote. -/
theorem readPieces_escape
    (characters rest : List Char) :
    ∃ pieces,
      readPieces (escape characters ++ '"' :: rest) =
        some (pieces, rest) ∧
      joinPieces pieces = some characters := by
  induction characters with
  | nil =>
      refine ⟨[], ?_, rfl⟩
      rw [show escape [] = [] from rfl, List.nil_append,
        readPieces.eq_def]
      simp
  | cons c characters ih =>
      rcases ih with ⟨pieces, hRead, hJoin⟩
      rcases readPieces_escapeChar c
          (escape characters ++ '"' :: rest) with
        ⟨piece, hPiece, hFirst⟩
      refine ⟨piece :: pieces, ?_, ?_⟩
      · unfold escape at hRead hPiece ⊢
        rw [List.flatMap_cons, List.append_assoc, hPiece,
          hRead]
        rfl
      · rw [hFirst, hJoin]
        rfl

theorem readString_escape
    (text : String)
    (rest : List Char) :
    readString (escape text.toList ++ '"' :: rest) =
      some (some text, rest) := by
  rcases readPieces_escape text.toList rest with
    ⟨pieces, hRead, hJoin⟩
  unfold readString
  rw [hRead, Option.map_some]
  dsimp only
  rw [hJoin, Option.map_some, String.ofList_toList]

------------------------------------------------------------
-- Printable Texts
------------------------------------------------------------

/- Whether no character of a text is a control character. -/
def IsPrintable (text : List Char) : Prop :=
  ∀ c ∈ text, 32 ≤ c.toNat

theorem IsPrintable.append
    {text more : List Char}
    (hText : IsPrintable text)
    (hMore : IsPrintable more) :
    IsPrintable (text ++ more) :=
  List.forall_mem_append.2 ⟨hText, hMore⟩

/- A given text is tested character by character. -/
theorem isPrintable_of_all
    {text : List Char}
    (hAll : text.all (fun c => 32 ≤ c.toNat) = true) :
    IsPrintable text := by
  intro c hMember
  simpa using List.all_eq_true.1 hAll c hMember

theorem isPrintable_escapeChar
    (c : Char) :
    IsPrintable (escapeChar c) := by
  unfold escapeChar
  split
  all_goals try exact isPrintable_of_all rfl
  by_cases hControl : c.toNat < 32
  · have hDigits : ∀ n < 32,
        32 ≤ (hexDigit (n / 16)).toNat ∧
          32 ≤ (hexDigit (n % 16)).toNat := by
      decide
    have hBoth := hDigits c.toNat hControl
    have hFront : IsPrintable ['\\', 'u', '0', '0'] :=
      isPrintable_of_all rfl
    rw [if_pos hControl]
    apply IsPrintable.append hFront
    intro d hMember
    rw [List.mem_cons, List.mem_singleton] at hMember
    rcases hMember with rfl | rfl
    · exact hBoth.1
    · exact hBoth.2
  · rw [if_neg hControl]
    intro d hMember
    rw [List.mem_singleton.1 hMember]
    omega

theorem isPrintable_renderString
    (text : Option String) :
    IsPrintable (renderString text) := by
  have hQuote : IsPrintable ['"'] := isPrintable_of_all rfl
  have hEscape : ∀ characters,
      IsPrintable (escape characters) := by
    intro characters d hMember
    rcases List.mem_flatMap.1 hMember with ⟨c, _, hChar⟩
    exact isPrintable_escapeChar c d hChar
  exact (hQuote.append (hEscape _)).append hQuote

------------------------------------------------------------
-- Numbers
------------------------------------------------------------

/- Whether a number ends in front of a text. -/
def EndsNumber : List Char → Prop
| [] => True
| c :: _ =>
    c.isDigit = false ∧ c ≠ '.' ∧ c ≠ 'e' ∧ c ≠ 'E'

/- A numeral with several digits does not begin with zero. -/
theorem head_toDigits_ne_zero
    {n : Nat}
    (hPositive : 0 < n)
    {c : Char}
    {rest : List Char}
    (hDigits : Nat.toDigits 10 n = c :: rest) :
    c ≠ '0' := by
  induction n using Nat.strongRecOn generalizing rest with
  | ind n ih =>
      rw [Nat.toDigits_eq_if (by omega)] at hDigits
      by_cases hSmall : n < 10
      · rw [if_pos hSmall] at hDigits
        cases hDigits
        have hAll : ∀ m < 10, 0 < m → m.digitChar ≠ '0' := by
          decide
        exact hAll n hSmall hPositive
      · rw [if_neg hSmall] at hDigits
        cases hFront : Nat.toDigits 10 (n / 10) with
        | nil => exact absurd hFront Nat.toDigits_ne_nil
        | cons d front =>
            rw [hFront, List.cons_append] at hDigits
            cases hDigits
            exact ih (n / 10) (by omega) (by omega) hFront

theorem readDigits_toDigits
    (n : Nat)
    (before : List Char)
    {rest : List Char}
    (hRest : EndsNumber rest) :
    readDigits before (Nat.toDigits 10 n ++ rest) =
      some (before ++ Nat.toDigits 10 n, rest) := by
  have hDigits :
      ∀ c ∈ Nat.toDigits 10 n, c.isDigit = true :=
    fun c hc =>
      Nat.isDigit_of_mem_toDigits (by omega) (by omega) hc
  have hTake : rest.takeWhile Char.isDigit = [] := by
    cases rest with
    | nil => rfl
    | cons c rest => simp [hRest.1]
  have hDrop : rest.dropWhile Char.isDigit = rest := by
    cases rest with
    | nil => rfl
    | cons c rest => simp [hRest.1]
  unfold readDigits takeDigits
  rw [List.takeWhile_append_of_pos hDigits,
    List.dropWhile_append_of_pos hDigits, hTake, hDrop,
    List.append_nil]
  cases hText : Nat.toDigits 10 n with
  | nil => exact absurd hText Nat.toDigits_ne_nil
  | cons c digits => rfl

theorem readInteger_toDigits
    (n : Nat)
    (before : List Char)
    {rest : List Char}
    (hRest : EndsNumber rest) :
    readInteger before (Nat.toDigits 10 n ++ rest) =
      some (before ++ Nat.toDigits 10 n, rest) := by
  rcases Nat.eq_zero_or_pos n with rfl | hPositive
  · have hHead : rest.head?.any Char.isDigit = false := by
      cases rest with
      | nil => rfl
      | cons c rest => exact hRest.1
    have hZero : Nat.toDigits 10 0 = ['0'] := rfl
    rw [hZero, List.cons_append, List.nil_append, readInteger,
      hHead]
    rfl
  · have hRead := readDigits_toDigits n before hRest
    cases hText : Nat.toDigits 10 n with
    | nil => exact absurd hText Nat.toDigits_ne_nil
    | cons c digits =>
        have hHead : c ≠ '0' :=
          head_toDigits_ne_zero hPositive hText
        rw [hText] at hRead
        rw [List.cons_append] at hRead ⊢
        unfold readInteger
        split
        · rename_i hZero
          exact absurd (List.cons.inj hZero).1 hHead
        · exact hRead

theorem readFraction_of_ends
    (before : List Char)
    {rest : List Char}
    (hRest : EndsNumber rest) :
    readFraction before rest = some (before, rest) := by
  unfold readFraction
  split
  · exact absurd rfl hRest.2.1
  · rfl

theorem readExponent_of_ends
    (before : List Char)
    {rest : List Char}
    (hRest : EndsNumber rest) :
    readExponent before rest = some (before, rest) := by
  cases rest with
  | nil => rfl
  | cons c rest =>
      have hNone :
          (decide (c = 'e') || decide (c = 'E')) = false := by
        simp [hRest.2.2.1, hRest.2.2.2]
      unfold readExponent
      dsimp only
      rw [hNone]
      rfl

/- Behind its sign, an integer is read digit by digit. -/
theorem readParts_toDigits
    (n : Nat)
    (before : List Char)
    {rest : List Char}
    (hRest : EndsNumber rest) :
    ((readInteger before (Nat.toDigits 10 n ++ rest)).bind
        fun (digits, rest) =>
          (readFraction digits rest).bind
            fun (digits, rest) =>
              readExponent digits rest) =
      some (before ++ Nat.toDigits 10 n, rest) := by
  rw [readInteger_toDigits n before hRest, Option.bind_some]
  dsimp only
  rw [readFraction_of_ends _ hRest, Option.bind_some]
  exact readExponent_of_ends _ hRest

/- An integer is read up to where a number ends. -/
theorem readNumber_toString
    (n : Int)
    {rest : List Char}
    (hRest : EndsNumber rest) :
    readNumber ((toString n).toList ++ rest) =
      some ((toString n).toList, rest) := by
  rw [Numeral.toList_toString]
  by_cases hSign : 0 ≤ n
  · rw [if_pos hSign]
    rcases Numeral.exists_toDigits_eq_cons n.toNat with
      ⟨c, digits, hText, _, hMinus⟩
    have hRead := readParts_toDigits n.toNat [] hRest
    rw [hText, List.cons_append] at hRead
    rw [hText, List.cons_append]
    unfold readNumber
    dsimp only
    split
    · rename_i hText
      exact absurd (List.cons.inj hText).1 hMinus
    · exact hRead
  · rw [if_neg hSign]
    exact readParts_toDigits (-n).toNat ['-'] hRest

/- Neither do integers have control characters. -/
theorem isPrintable_toString
    (n : Int) :
    IsPrintable (toString n).toList := by
  have hDigits : ∀ m, IsPrintable (Nat.toDigits 10 m) := by
    intro m c hMember
    have hDigit : c.isDigit = true :=
      Nat.isDigit_of_mem_toDigits (by omega) (by omega) hMember
    have hZero : 32 ≤ '0'.toNat := by decide
    exact Nat.le_trans hZero
      (Char.isDigit_iff_toNat.1 hDigit).1
  have hSign : IsPrintable ['-'] := isPrintable_of_all rfl
  rw [Numeral.toList_toString]
  by_cases hNatural : 0 ≤ n
  · rw [if_pos hNatural]
    exact hDigits n.toNat
  · rw [if_neg hNatural]
    exact hSign.append (hDigits _)

end Json

end TreeKeeper
