import TreeKeeper.Text.Basic
import TreeKeeper.Decimal.Shortest

/-
  What a plain scalar stands for: nothing, a truth value, a
  number or its own text.  Numbers with a zero in front of
  other digits are texts.

  Key definitions include:
    * `Yaml.Number`
    * `Yaml.Number.text`
    * `Yaml.Scalar`
    * `Yaml.Scalar.resolve?`
-/

------------------------------------------------------------
-- Numbers
------------------------------------------------------------

namespace TreeKeeper

namespace Yaml

/- A number of a document. -/
inductive Number where
| integer (value : Int)
| finite (value : Decimal.Binary64)
| infinite (isNegative : Bool)
| undefined
deriving DecidableEq

/- The text of a number. -/
def Number.text : Number → String
| integer n => toString n
| finite b => b.text
| infinite true => "-.inf"
| infinite false => ".inf"
| undefined => ".nan"

/- Whether two numbers are equal.  Zeros differ in sign only. -/
def Number.same : Number → Number → Bool
| finite a, finite b =>
    a == b || (a.mantissa == 0 && b.mantissa == 0)
| m, n => m == n

/- A plain scalar with its meaning. -/
inductive Scalar where
| null
| bool (value : Bool)
| number (value : Number)
| string (text : String)

------------------------------------------------------------
-- Words
------------------------------------------------------------

/- Whether a text stands for nothing. -/
def isNullWord (text : String) : Bool :=
  ["null", "Null", "NULL", "~"].contains text

/- The truth value that a text stands for. -/
def bool? (text : String) : Option Bool :=
  if ["true", "True", "TRUE"].contains text then some true
  else if ["false", "False", "FALSE"].contains text then
    some false
  else none

------------------------------------------------------------
-- Integers
------------------------------------------------------------

/- Whether a zero stands in front of other digits. -/
def hasLeadingZero (text : List Char) : Bool :=
  match (Decimal.splitSign text).2 with
  | '0' :: c :: rest => (c :: rest).all Char.isDigit
  | _ => false

/- The marks of numerals in other bases. -/
def bases : List (List Char × Nat) := [
  ("0x".toList, 16), ("0o".toList, 8), ("0b".toList, 2)]

/- The value of digits behind the mark of their base. -/
def markedDigits? (text : List Char) : Option Nat :=
  bases.findSome? fun (mark, base) =>
    (Text.stripBeginning mark text).bind fun digits =>
      Numeral.ofDigits? base digits

/- The integer that a text stands for. -/
def integer? (text : List Char) : Option Int :=
  let (isNegative, body) := Decimal.splitSign text
  let signed := fun (n : Nat) =>
    if isNegative then -(n : Int) else (n : Int)
  match markedDigits? body with
  | some n => some (signed n)
  | none =>
      if hasLeadingZero text then none
      else (Numeral.ofDigits? 10 body).map signed

/- How a text reads as an integer. -/
inductive IntegerReading where
| fits (value : Int)
| tooLong
| other

/- The number of unsigned integers of 128 bits. -/
def size128 : Int :=
  0x100000000000000000000000000000000

/-
  Read an integer that fits 64 bits.  Longer ones that fit
  128 bits are refused, and still longer ones are no
  integers.
-/
def readInteger (text : List Char) : IntegerReading :=
  match integer? text with
  | some n =>
      if Int64.minValue.toInt ≤ n ∧ n < UInt64.size then
        .fits n
      else if -size128 ≤ 2 * n ∧ n < size128 then .tooLong
      else .other
  | none => .other

------------------------------------------------------------
-- Fractions
------------------------------------------------------------

/- Drop a plus sign, which may not precede another sign. -/
def dropPlus : List Char → Option (List Char)
| '+' :: '+' :: _ => none
| '+' :: '-' :: _ => none
| '+' :: rest => some rest
| text => some text

/- The number with a fraction that a text stands for. -/
def fraction? (text : List Char) : Option Number :=
  let word := String.ofList text
  if ["-.inf", "-.Inf", "-.INF"].contains word then
    some (.infinite true)
  else if [".nan", ".NaN", ".NAN"].contains word then
    some .undefined
  else
    match dropPlus text with
    | none => none
    | some body =>
        if [".inf", ".Inf", ".INF"].contains
            (String.ofList body) then
          some (.infinite false)
        else
          ((Decimal.Numeral.ofText? body).bind
            Decimal.nearest?).map .finite

------------------------------------------------------------
-- Resolution
------------------------------------------------------------

/- What a plain scalar stands for, unless it is refused. -/
def Scalar.resolve? (text : String) : Option Scalar :=
  let chars := text.toList
  if text = "" || isNullWord text then some .null
  else
    match bool? text with
    | some b => some (.bool b)
    | none =>
        match readInteger chars with
        | .fits n => some (.number (.integer n))
        | .tooLong => none
        | .other =>
            if hasLeadingZero chars then some (.string text)
            else
              match fraction? chars with
              | some x => some (.number x)
              | none => some (.string text)

end Yaml

end TreeKeeper
