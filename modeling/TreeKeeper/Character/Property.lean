import TreeKeeper.Text.Blank
import TreeKeeper.Character.Alphabetic
import TreeKeeper.Character.Script

/-
  Character properties that patterns name: some properties
  with two values, the general categories, and the scripts.
  Names are compared without regard to case, blanks, hyphens
  and low lines, and without `is` in front.

  Key definitions include:
    * `Character.plainName`
    * `Character.property?`
    * `Character.propertyWithValue?`
-/

------------------------------------------------------------
-- Names
------------------------------------------------------------

namespace TreeKeeper

namespace Character

/- The name without an `is` in front, and whether it had it. -/
def withoutIs : List Char → Bool × List Char
| i :: s :: rest =>
    if i.toLower = 'i' ∧ s.toLower = 's' then (true, rest)
    else (false, i :: s :: rest)
| name => (false, name)

/-
  The significant characters of a property name.  The name
  `isc` is not the name `c` with `is` in front.
-/
def plainName (name : List Char) : String :=
  let (stripped, rest) := withoutIs name
  let kept := (rest.filter fun c =>
    !(c == ' ' || c == '-' || c == '_') &&
      c.toNat ≤ 0x7F).map Char.toLower
  if stripped && kept == ['c'] then "isc"
  else String.ofList kept

------------------------------------------------------------
-- Properties
------------------------------------------------------------

/- The test for a property with two values. -/
def binary? (name : String) : Option (Char → Bool) :=
  match name with
  | "alphabetic" => some isAlphabetic
  | "alpha" => some isAlphabetic
  | "uppercase" => some isUppercase
  | "upper" => some isUppercase
  | "lowercase" => some isLowercase
  | "lower" => some isLowercase
  | "whitespace" => some Text.isBlank
  | "wspace" => some Text.isBlank
  | "space" => some Text.isBlank
  | _ => none

/- The test for a general category or a union of them. -/
def categoryTest? (name : String) : Option (Char → Bool) :=
  match name with
  | "any" => some fun _ => true
  | "ascii" => some fun c => c.toNat ≤ 0x7F
  | "assigned" => some fun c => !inCategory "Cn" c
  | _ => (categoryCode? name).map inCategory

/- The test for a script. -/
def scriptTest? (name : String) : Option (Char → Bool) :=
  (scriptCode? name).map fun code c => script c == code

/- The test for a property with a given name. -/
def property? (name : List Char) : Option (Char → Bool) :=
  let plain := plainName name
  match binary? plain with
  | some test => some test
  | none =>
      match categoryTest? plain with
      | some test => some test
      | none => scriptTest? plain

/- The test for a value of a property with more values. -/
def propertyWithValue?
    (name value : List Char) : Option (Char → Bool) :=
  match plainName name with
  | "gc" => categoryTest? (plainName value)
  | "generalcategory" => categoryTest? (plainName value)
  | "sc" => scriptTest? (plainName value)
  | "script" => scriptTest? (plainName value)
  | _ => none

end Character

end TreeKeeper
