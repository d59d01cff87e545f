import Mathlib.Tactic.SplitIfs

/-
  The order of texts.  Texts are compared by their characters,
  and this is the order of their UTF-8 bytes: the bytes of a
  lesser character differ from those of a greater one at a
  place that both have, and the lesser one has the lesser byte
  there.

  Key definitions include:
    * `Text.bytes`
    * `Text.Precedes`

  Main declarations:
    * `Text.precedes_utf8EncodeChar`
    * `Text.bytes_lt_iff`
    * `Text.compare_eq_lt_iff`
-/

------------------------------------------------------------
-- Bytes
------------------------------------------------------------

namespace TreeKeeper

namespace Text

/- The UTF-8 bytes of a text. -/
def bytes (text : String) : List UInt8 :=
  text.toUTF8.data.toList

theorem bytes_eq_flatMap
    (text : String) :
    bytes text = text.toList.flatMap String.utf8EncodeChar := by
  unfold bytes
  rw [String.toUTF8_eq_toByteArray, ← String.utf8Encode_toList]
  unfold List.utf8Encode
  rw [List.data_toByteArray]

------------------------------------------------------------
-- Characters
------------------------------------------------------------

/-
  Whether bytes differ from others at a place that both have,
  and have the lesser byte there.
-/
inductive Precedes : List UInt8 → List UInt8 → Prop
| here
    {a b : UInt8}
    (hLess : a < b)
    (first second : List UInt8) :
    Precedes (a :: first) (b :: second)
| behind
    (a : UInt8)
    {first second : List UInt8}
    (hRest : Precedes first second) :
    Precedes (a :: first) (a :: second)

theorem precedes_cons_iff
    {a b : UInt8}
    {first second : List UInt8} :
    Precedes (a :: first) (b :: second) ↔
      a < b ∨ a = b ∧ Precedes first second := by
  constructor
  · intro h
    cases h with
    | here hLess => exact .inl hLess
    | behind _ hRest => exact .inr ⟨rfl, hRest⟩
  · rintro (hLess | ⟨rfl, hRest⟩)
    · exact .here hLess first second
    · exact .behind a hRest

/- Whatever stands behind the bytes makes no difference. -/
theorem Precedes.append_lt
    {first second : List UInt8}
    (h : Precedes first second)
    (rest others : List UInt8) :
    first ++ rest < second ++ others := by
  induction h with
  | here hLess => exact List.Lex.rel hLess
  | behind a _ ih => exact List.Lex.cons ih

theorem ofNat_lt_ofNat_iff
    {m n : Nat}
    (hFirst : m < 256)
    (hSecond : n < 256) :
    UInt8.ofNat m < UInt8.ofNat n ↔ m < n := by
  rw [UInt8.lt_iff_toNat_lt, UInt8.toNat_ofNat_of_lt' hFirst,
    UInt8.toNat_ofNat_of_lt' hSecond]

theorem ofNat_eq_ofNat_iff
    {m n : Nat}
    (hFirst : m < 256)
    (hSecond : n < 256) :
    UInt8.ofNat m = UInt8.ofNat n ↔ m = n := by
  rw [← UInt8.toNat_inj, UInt8.toNat_ofNat_of_lt' hFirst,
    UInt8.toNat_ofNat_of_lt' hSecond]

/-
  By the numbers of bytes of both characters.  A character
  with fewer bytes has the lesser first byte, and bytes of the
  same number are the digits of their characters.
-/
theorem precedes_utf8EncodeChar
    {c d : Char}
    (hLess : c < d) :
    Precedes (String.utf8EncodeChar c)
      (String.utf8EncodeChar d) := by
  have hValue : c.val.toNat < d.val.toNat := hLess
  have hRange : d.val.toNat < 1114112 := by
    have hValid := d.valid
    simp only [UInt32.isValidChar, Nat.isValidChar] at hValid
    omega
  have hSecond (n : Nat) : n / 4096 = n / 64 / 64 :=
    (Nat.div_div_eq_div_mul n 64 64).symm
  have hThird (n : Nat) : n / 262144 = n / 64 / 64 / 64 := by
    rw [Nat.div_div_eq_div_mul, Nat.div_div_eq_div_mul]
  unfold String.utf8EncodeChar
  generalize c.val.toNat = m at hValue
  generalize d.val.toNat = n at hValue hRange
  dsimp only
  rw [hSecond, hSecond, hThird, hThird]
  -- Behind the split only comparisons of digits are left.
  split_ifs <;>
    simp (disch := omega) only [precedes_cons_iff,
      ofNat_lt_ofNat_iff, ofNat_eq_ofNat_iff] <;>
    omega

------------------------------------------------------------
-- Texts
------------------------------------------------------------

theorem flatMap_lt_of_lt
    {first second : List Char}
    (hLess : first < second) :
    first.flatMap String.utf8EncodeChar <
      second.flatMap String.utf8EncodeChar := by
  induction hLess with
  | @nil d second =>
      rw [List.flatMap_nil, List.flatMap_cons]
      rcases List.exists_cons_of_ne_nil
          (String.utf8EncodeChar_ne_nil (c := d)) with
        ⟨byte, rest, hBytes⟩
      rw [hBytes, List.cons_append]
      exact List.nil_lt_cons byte _
  | rel hChar =>
      rw [List.flatMap_cons, List.flatMap_cons]
      exact (precedes_utf8EncodeChar hChar).append_lt _ _
  | cons _ ih =>
      rw [List.flatMap_cons, List.flatMap_cons]
      exact List.append_left_lt ih

theorem bytes_lt_of_lt
    {first second : String}
    (hLess : first < second) :
    bytes first < bytes second := by
  rw [bytes_eq_flatMap, bytes_eq_flatMap]
  exact flatMap_lt_of_lt hLess

/- Texts are in the order of their bytes. -/
theorem bytes_lt_iff
    {first second : String} :
    bytes first < bytes second ↔ first < second := by
  refine ⟨fun hBytes => ?_, bytes_lt_of_lt⟩
  by_cases hLess : first < second
  · exact hLess
  by_cases hMore : second < first
  · exact absurd (bytes_lt_of_lt hMore)
      (List.lt_asymm hBytes)
  · have hSame := String.le_antisymm (String.not_lt.1 hMore)
      (String.not_lt.1 hLess)
    rw [hSame] at hBytes
    exact absurd hBytes (List.lt_irrefl _)

theorem compare_eq_lt_iff
    {first second : String} :
    compare first second = .lt ↔
      bytes first < bytes second :=
  compareOfLessAndEq_eq_lt.trans bytes_lt_iff.symm

theorem compare_eq_gt_iff
    {first second : String} :
    compare first second = .gt ↔
      bytes second < bytes first :=
  Std.OrientedCmp.gt_iff_lt.trans compare_eq_lt_iff

end Text

end TreeKeeper
