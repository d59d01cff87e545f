import TreeKeeper.Calendar.Basic
import TreeKeeper.Text.Numeral

/-
  Timestamps: a date and a time of day in universal time,
  such as `2018-02-14T00:28:07Z`.  A blank may stand for the
  `T`, the `Z` may be missing, and up to nine digits of a
  fraction are ignored.  The last second of a minute may be
  a leap second, which counts as the one before it.

  Key definitions include:
    * `Calendar.secondsOfTimestamp?`
-/

------------------------------------------------------------
-- Timestamps
------------------------------------------------------------

namespace TreeKeeper

namespace Calendar

/- The number that two digits stand for. -/
def twoDigits? (tens ones : Char) : Option Nat := do
  let t ← Numeral.digit? 10 tens
  let o ← Numeral.digit? 10 ones
  return t * 10 + o

/- Whether what follows the seconds of a timestamp is fine. -/
def isTimestampEnd : List Char → Bool
| [] => true
| ['Z'] => true
| '.' :: fraction =>
    let digits :=
      if fraction.getLast? = some 'Z' then fraction.dropLast
      else fraction
    digits.length ≤ 9 &&
      digits.all fun c => (Numeral.digit? 10 c).isSome
| _ => false

/- The seconds of a date and a time of day, if they exist. -/
def secondsOf?
    (year month day hour minute second : Nat) :
    Option Nat :=
  if year < 1970 ∨ month = 0 ∨ 12 < month ∨ day = 0 ∨
      daysInMonth year month < day ∨ 23 < hour ∨
      59 < minute ∨ 60 < second then
    none
  else
    some
      ((dayOfDate year month day).toNat * 86400 +
        hour * 3600 + minute * 60 + min second 59)

/- The seconds since the epoch that a timestamp tells. -/
def secondsOfTimestamp? (text : String) : Option Nat :=
  match text.toList with
  | y₁ :: y₂ :: y₃ :: y₄ :: '-' :: o₁ :: o₂ :: '-' ::
      d₁ :: d₂ :: t :: h₁ :: h₂ :: ':' :: m₁ :: m₂ :: ':' ::
      s₁ :: s₂ :: rest => do
      let century ← twoDigits? y₁ y₂
      let year ← twoDigits? y₃ y₄
      let month ← twoDigits? o₁ o₂
      let day ← twoDigits? d₁ d₂
      let hour ← twoDigits? h₁ h₂
      let minute ← twoDigits? m₁ m₂
      let second ← twoDigits? s₁ s₂
      if (t = 'T' ∨ t = ' ') ∧ isTimestampEnd rest then
        secondsOf? (century * 100 + year) month day hour
          minute second
      else none
  | _ => none

end Calendar

end TreeKeeper
