import TreeKeeper.Text.Numeral

/-
  Binary floating-point numbers of 64 bits, as a sign and an
  integer times a power of two, and the nearest such number
  to a decimal numeral.

  Key definitions include:
    * `Decimal.Numeral`
    * `Decimal.Numeral.ofText?`
    * `Decimal.Binary64`
    * `Decimal.nearest?`
-/

------------------------------------------------------------
-- Decimal Numerals
------------------------------------------------------------

namespace TreeKeeper

namespace Decimal

/- The value `digits · 10 ^ exponent`, with a sign. -/
structure Numeral where
  isNegative : Bool
  digits : Nat
  exponent : Int

/- Split off a sign in front. -/
def splitSign : List Char → Bool × List Char
| '-' :: rest => (true, rest)
| '+' :: rest => (false, rest)
| text => (false, text)

/- The value of digits, where no digits are zero. -/
def digitsValue (digits : List Char) : Nat :=
  digits.foldl
    (fun n c => n * 10 + (c.toNat - '0'.toNat)) 0

/- Read the exponent behind the digits of a numeral. -/
def exponentOf? : List Char → Option Int
| [] => some 0
| c :: rest =>
    if c = 'e' || c = 'E' then
      let (isNegative, digits) := splitSign rest
      if digits.isEmpty || !digits.all Char.isDigit then none
      else
        let n : Int := digitsValue digits
        some (if isNegative then -n else n)
    else none

/-
  Read a numeral: digits with at most one point, of which at
  least one is there, and an optional exponent.
-/
def Numeral.ofText? (text : List Char) : Option Numeral :=
  let (isNegative, body) := splitSign text
  let whole := body.takeWhile Char.isDigit
  let afterWhole := body.dropWhile Char.isDigit
  let afterPoint :=
    match afterWhole with
    | '.' :: rest => rest
    | _ => []
  let part :=
    match afterWhole with
    | '.' :: rest => rest.takeWhile Char.isDigit
    | _ => []
  let tail :=
    match afterWhole with
    | '.' :: _ => afterPoint.dropWhile Char.isDigit
    | rest => rest
  if whole.isEmpty && part.isEmpty then none
  else
    (exponentOf? tail).map fun exponent => {
      isNegative := isNegative
      digits := digitsValue (whole ++ part)
      exponent := exponent - part.length }

------------------------------------------------------------
-- Binary Numbers
------------------------------------------------------------

/-
  The value `mantissa · 2 ^ exponent`, with a sign.  The
  mantissa has 53 bits unless the exponent is the least one.
-/
structure Binary64 where
  isNegative : Bool
  mantissa : Nat
  exponent : Int
deriving DecidableEq

/- The least exponent. -/
def leastExponent : Int :=
  -1074

/- The greatest exponent. -/
def greatestExponent : Int :=
  971

/- The least mantissa of a number above the least exponent. -/
def leastMantissa : Nat :=
  0x10000000000000

/- A power of ten. -/
def tenTo (n : Nat) : Nat :=
  Nat.pow 10 n

/- The quotient, rounded to nearest, and to even if tied. -/
def roundDiv (num den : Nat) : Nat :=
  let quotient := num / den
  let twice := 2 * (num % den)
  if twice < den then quotient
  else if den < twice then quotient + 1
  else if quotient % 2 = 0 then quotient
  else quotient + 1

/- The quotient of two numbers over a power of two. -/
def roundScaled
    (num den : Nat)
    (exponent : Int) : Nat :=
  if 0 ≤ exponent then
    roundDiv num (den <<< exponent.toNat)
  else roundDiv (num <<< (-exponent).toNat) den

/-
  The binary number nearest to a positive fraction.  The
  exponent is first guessed from the lengths of both numbers,
  and the guess is too large by at most one.
-/
def nearestFraction?
    (isNegative : Bool)
    (num den : Nat) : Option Binary64 :=
  let guess : Int :=
    (num.log2 : Int) - (den.log2 : Int) - 52
  let isLow :=
    roundScaled num den guess < leastMantissa
  let exponent :=
    max leastExponent (if isLow then guess - 1 else guess)
  let mantissa := roundScaled num den exponent
  let (mantissa, exponent) :=
    if mantissa = 2 * leastMantissa then
      (leastMantissa, exponent + 1)
    else (mantissa, exponent)
  if greatestExponent < exponent then none
  else some ⟨isNegative, mantissa, exponent⟩

/-
  The binary number nearest to a numeral, unless the numeral
  is too large.  Numerals far beyond the range are decided by
  the place of their first digit.
-/
def nearest? (numeral : Numeral) : Option Binary64 :=
  let length := (toString numeral.digits).length
  let place := numeral.exponent + (length : Int)
  if numeral.digits = 0 ∨ place < -400 then
    some ⟨numeral.isNegative, 0, leastExponent⟩
  else if 400 < place then none
  else if 0 ≤ numeral.exponent then
    nearestFraction? numeral.isNegative
      (numeral.digits * tenTo numeral.exponent.toNat) 1
  else
    nearestFraction? numeral.isNegative numeral.digits
      (tenTo (-numeral.exponent).toNat)

end Decimal

end TreeKeeper
