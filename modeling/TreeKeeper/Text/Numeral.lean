/-
  Numerals: reading unsigned and signed integers within the
  range of a machine word, and writing octal numerals.

  Key definitions include:
    * `Numeral.ofDigits?`
    * `Numeral.unsigned?`
    * `Numeral.signed?`
    * `Numeral.octal`
-/

------------------------------------------------------------
-- Digits
------------------------------------------------------------

namespace TreeKeeper

namespace Numeral

/- The value of a digit in a base of at most sixteen. -/
def digit?
    (base : Nat)
    (c : Char) : Option Nat :=
  let value :=
    if '0' ≤ c ∧ c ≤ '9' then
      some (c.toNat - '0'.toNat)
    else if 'a' ≤ c ∧ c ≤ 'f' then
      some (c.toNat - 'a'.toNat + 10)
    else if 'A' ≤ c ∧ c ≤ 'F' then
      some (c.toNat - 'A'.toNat + 10)
    else none
  match value with
  | some n => if n < base then some n else none
  | none => none

/- Read further digits behind a value read so far. -/
def extend?
    (base : Nat) :
    Nat → List Char → Option Nat
| value, [] => some value
| value, c :: rest =>
    match digit? base c with
    | some d => extend? base (value * base + d) rest
    | none => none

/- A nonempty list of digits, and nothing else. -/
def ofDigits?
    (base : Nat)
    (text : List Char) : Option Nat :=
  if text.isEmpty then none
  else extend? base 0 text

------------------------------------------------------------
-- Signs And Ranges
------------------------------------------------------------

/- Keep a value below a bound. -/
def below?
    (bound value : Nat) : Option Nat :=
  if value < bound then some value else none

/-
  An unsigned numeral below a bound.  One plus sign may
  stand in front.
-/
def unsigned?
    (base bound : Nat) :
    List Char → Option Nat
| '+' :: rest =>
    (ofDigits? base rest).bind (below? bound)
| text =>
    (ofDigits? base text).bind (below? bound)

/-
  A signed numeral from `-bound` up to `bound - 1`.  One
  plus or minus sign may stand in front.
-/
def signed?
    (base bound : Nat) :
    List Char → Option Int
| '-' :: rest =>
    ((ofDigits? base rest).bind
      (below? (bound + 1))).map fun n => -(n : Int)
| text =>
    (unsigned? base bound text).map Int.ofNat

/- A decimal numeral that fits 64 bits. -/
def word64? (text : String) : Option UInt64 :=
  (unsigned? 10 UInt64.size text.toList).map UInt64.ofNat

/- A signed decimal numeral that fits 64 bits. -/
def integer64? (text : String) : Option Int64 :=
  (signed? 10 0x8000000000000000 text.toList).map
    Int64.ofInt

------------------------------------------------------------
-- Writing
------------------------------------------------------------

/- The octal numeral of a number. -/
def octal (n : Nat) : String :=
  String.ofList (Nat.toDigits 8 n)

end Numeral

end TreeKeeper
