import TreeKeeper.Decimal.Binary64

/-
  The shortest decimal numeral that reads back as a given
  binary number.  Of several such numerals the nearest one is
  taken, and an even last digit if two are equally near.

  Key definitions include:
    * `Decimal.Interval`
    * `Decimal.shortest`
    * `Decimal.layOut`
    * `Decimal.Binary64.text`
-/

------------------------------------------------------------
-- Rounding Intervals
------------------------------------------------------------

namespace TreeKeeper

namespace Decimal

/-
  A value between two others, as integers over one common
  denominator.  The ends belong to the interval if the flag
  is set.
-/
structure Interval where
  lower : Nat
  value : Nat
  upper : Nat
  denominator : Nat
  isClosed : Bool

/-
  The numbers that are nearest to a positive binary number.
  The next smaller number is closer than the next larger one
  if the mantissa is a power of two.
-/
def Interval.of (b : Binary64) : Interval :=
  let isPower :=
    b.mantissa = leastMantissa ∧ leastExponent < b.exponent
  let value := 4 * b.mantissa
  let lower := if isPower then value - 1 else value - 2
  let exponent := b.exponent - 2
  let shift := exponent.toNat
  { lower := lower <<< shift
    value := value <<< shift
    upper := (value + 2) <<< shift
    denominator := 1 <<< (-exponent).toNat
    isClosed := b.mantissa % 2 = 0 }

/- Whether `digits · 10 ^ exponent` lies in an interval. -/
def Interval.holds
    (i : Interval)
    (digits : Nat)
    (exponent : Int) : Bool :=
  let scaled :=
    digits * i.denominator * tenTo exponent.toNat
  let unit := tenTo (-exponent).toNat
  if i.isClosed then
    i.lower * unit ≤ scaled && scaled ≤ i.upper * unit
  else
    i.lower * unit < scaled && scaled < i.upper * unit

/-
  The place of the first digit of a value: the exponent for
  which it lies between one and ten times a power of ten.
-/
def firstPlace (num den : Nat) : Int :=
  if den ≤ num then
    ((toString (num / den)).length : Int) - 1
  else
    -(((toString ((den - 1) / num)).length : Int))

------------------------------------------------------------
-- Shortest Digits
------------------------------------------------------------

/-
  The numeral with a given last place in an interval that is
  nearest to its value, if there is one.
-/
def Interval.nearestAt?
    (i : Interval)
    (exponent : Int) : Option (Nat × Int) :=
  let num := i.value * tenTo (-exponent).toNat
  let den := i.denominator * tenTo exponent.toNat
  let near := roundDiv num den
  let below := num / den
  [near, below, below + 1].findSome? fun digits =>
    if i.holds digits exponent then some (digits, exponent)
    else none

/- Try last places from a first one downward. -/
def Interval.firstNearest?
    (i : Interval) :
    Nat → Int → Option (Nat × Int)
| 0, _ => none
| fuel + 1, exponent =>
    match i.nearestAt? exponent with
    | some found => some found
    | none => i.firstNearest? fuel (exponent - 1)

/- Take zeros at the end away from digits. -/
def dropZeros : Nat → Nat → Int → Nat × Int
| 0, digits, exponent => (digits, exponent)
| fuel + 1, digits, exponent =>
    if digits % 10 = 0 then
      dropZeros fuel (digits / 10) (exponent + 1)
    else (digits, exponent)

/-
  The shortest digits of a positive binary number, with the
  exponent of their last place.  Seventeen digits always
  suffice.
-/
def shortest (b : Binary64) : Nat × Int :=
  let i := Interval.of b
  let place := firstPlace i.value i.denominator
  match i.firstNearest? 18 place with
  | some (digits, exponent) =>
      dropZeros 18 digits exponent
  | none => (0, 0)

------------------------------------------------------------
-- Layout
------------------------------------------------------------

/- A number of zeros. -/
def zeros (n : Int) : List Char :=
  List.replicate n.toNat '0'

/-
  Digits with an exponent as text: without an exponent from
  five places behind the point up to sixteen in front of it,
  and with one digit in front of the point otherwise.
-/
def layOut (digits : Nat) (exponent : Int) : String :=
  let text := (toString digits).toList
  let point := exponent + (text.length : Int)
  String.ofList <|
    if 0 ≤ exponent ∧ point ≤ 16 then
      text ++ zeros exponent ++ ['.', '0']
    else if 0 < point ∧ point ≤ 16 then
      text.take point.toNat ++
        '.' :: text.drop point.toNat
    else if -5 < point ∧ point ≤ 0 then
      '0' :: '.' :: zeros (-point) ++ text
    else
      let tail := text.drop 1
      text.take 1 ++
        (if tail.isEmpty then [] else '.' :: tail) ++
        'e' :: (toString (point - 1)).toList

/- The shortest text that reads back as a binary number. -/
def Binary64.text (b : Binary64) : String :=
  let sign := if b.isNegative then "-" else ""
  if b.mantissa = 0 then sign ++ "0.0"
  else
    let (digits, exponent) := shortest b
    sign ++ layOut digits exponent

end Decimal

end TreeKeeper
