import TreeKeeper.Text.Numeral
import TreeKeeper.Filter.Basic

/-
  Windows: numerals such as `5`, `+5` and `-5`, with an
  optional unit, and the filters they stand for on times,
  sizes and counters.  A window on times is fixed to the
  instant at which the filter is built.

  Key definitions include:
    * `Window`
    * `Window.ofText`
    * `Window.Fault`
    * `Window.Fault.message`
    * `TimeUnit`
    * `Window.timeFilter`
    * `Window.sizeUnit?`
    * `Window.sizeFilter`
    * `Window.counterFilter`
-/

------------------------------------------------------------
-- Numerals
------------------------------------------------------------

namespace TreeKeeper

/- How a value relates to the numeral of a window. -/
inductive Qualifier where
| exactly
| moreThan
| lessThan
deriving DecidableEq

/- A numeral with a qualifier and what follows it. -/
structure Window where
  qualifier : Qualifier
  magnitude : UInt64
  suffix : String
deriving DecidableEq

namespace Window

/- Why an argument is no window. -/
inductive Fault where
| noDigit
| numberRange
| trailing (suffix : String)
| timeRange
| unknownUnit (suffix : String)
| noUnit
| sizeRange
deriving DecidableEq

/- The report of a fault. -/
def Fault.message : Fault → String
| noDigit => "expected at least one digit"
| numberRange => "number out of range"
| trailing suffix =>
    "unexpected trailing '" ++ suffix ++ "'"
| timeRange => "time window out of range"
| unknownUnit suffix =>
    "unknown size unit '" ++ suffix ++ "'"
| noUnit => "size must be at least one unit"
| sizeRange => "size out of range"

/- Split off the sign in front of a numeral. -/
def splitSign : List Char → Qualifier × List Char
| '+' :: rest => (.moreThan, rest)
| '-' :: rest => (.lessThan, rest)
| text => (.exactly, text)

/- Read a window: a sign, digits, and the rest. -/
def ofText (text : String) : Except Fault Window :=
  let (qualifier, rest) := splitSign text.toList
  let digits := rest.takeWhile Char.isDigit
  if digits.isEmpty then .error .noDigit
  else
    match Numeral.unsigned? 10 UInt64.size digits with
    | none => .error .numberRange
    | some n =>
        .ok {
          qualifier := qualifier
          magnitude := UInt64.ofNat n
          suffix :=
            String.ofList (rest.dropWhile Char.isDigit) }

/- Read a window that nothing follows. -/
def ofWholeText (text : String) : Except Fault Window := do
  let window ← ofText text
  if window.suffix = "" then return window
  else throw (.trailing window.suffix)

end Window

------------------------------------------------------------
-- Times
------------------------------------------------------------

/- The units in which windows on times count. -/
inductive TimeUnit where
| minutes
| days
deriving DecidableEq

/- The seconds of a unit. -/
def TimeUnit.seconds : TimeUnit → Int
| minutes => 60
| days => 86400

/- The 64-bit integer with a given value, if there is one. -/
def int64? (n : Int) : Option Int64 :=
  if
    Int64.minValue.toInt ≤ n ∧
    n ≤ Int64.maxValue.toInt
  then some (Int64.ofInt n)
  else none

namespace Window

/- A 64-bit integer, or the fault that it is too large. -/
def timestamp (n : Int) : Except Fault Int64 :=
  match int64? n with
  | some t => .ok t
  | none => .error .timeRange

/-
  The filter of a window on times.  With `then` at `N` units
  before now, `+N` asks for times before `then`, `-N` for
  times after it, and `N` for the unit that ends at `then`.
-/
def timeFilter
    (field : Field)
    (text : String)
    (unit : TimeUnit)
    (now : Int64) : Except Fault Filter := do
  let window ← ofWholeText text
  let delta ← timestamp
    ((window.magnitude.toNat : Int) * unit.seconds)
  let bound ← timestamp (now.toInt - delta.toInt)
  match window.qualifier with
  | .moreThan =>
      return .compare field .less (.integer bound)
  | .lessThan =>
      return .compare field .greater (.integer bound)
  | .exactly =>
      let earliest ← timestamp (bound.toInt - unit.seconds)
      return .and [
        .compare field .greater (.integer earliest),
        .compare field .lessOrEqual (.integer bound)]

------------------------------------------------------------
-- Sizes
------------------------------------------------------------

/- The bytes of a unit of sizes. -/
def sizeUnit? (suffix : String) : Option Nat :=
  match suffix with
  | "c" => some 1
  | "w" => some 2
  | "" => some 512
  | "b" => some 512
  | "k" => some 0x400
  | "M" => some 0x100000
  | "G" => some 0x40000000
  | "T" => some 0x10000000000
  | _ => none

/-
  The filter of a window on sizes, which count started
  units: `+N` asks for more than `N` units, `-N` for less,
  and `N` for exactly as many.
-/
def sizeFilter (text : String) : Except Fault Filter := do
  let window ← ofText text
  match sizeUnit? window.suffix with
  | none => throw (.unknownUnit window.suffix)
  | some unit =>
      let count := window.magnitude.toNat
      if count = 0 ∧ window.qualifier ≠ .moreThan then
        throw .noUnit
      let upper := count * unit
      if UInt64.size ≤ upper then throw .sizeRange
      let bytes := fun (op : Operator) (n : Nat) =>
        Filter.compare .size op
          (.unsigned (UInt64.ofNat n))
      match window.qualifier with
      | .moreThan => return bytes .greater upper
      | .lessThan =>
          return bytes .lessOrEqual (upper - unit)
      | .exactly =>
          return .and [
            bytes .greater (upper - unit),
            bytes .lessOrEqual upper]

------------------------------------------------------------
-- Counters
------------------------------------------------------------

/- The operator that a qualifier stands for on counters. -/
def operatorOf : Qualifier → Operator
| .exactly => .equal
| .moreThan => .greater
| .lessThan => .less

/- The filter of a window on a counter. -/
def counterFilter
    (field : Field)
    (text : String) : Except Fault Filter := do
  let window ← ofWholeText text
  return .compare field (operatorOf window.qualifier)
    (.unsigned window.magnitude)

end Window

end TreeKeeper
