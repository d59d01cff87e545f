import TreeKeeper.Character.Word

/-
  Regular expressions over characters, what they match, and
  a matcher that keeps the set of places a match may have
  reached.  Anchors look at the text around a place, so a
  match is a pair of places in one fixed text.

  Key definitions include:
    * `Regex.Anchor`
    * `Regex.Anchor.holds`
    * `Regex`
    * `Regex.Matches`
    * `Regex.reach`
    * `Regex.search`
-/

------------------------------------------------------------
-- Anchors
------------------------------------------------------------

namespace TreeKeeper

namespace Regex

/- Conditions on a place between two characters. -/
inductive Anchor where
| textStart
| textEnd
| lineStart
| lineEnd
| returnLineStart
| returnLineEnd
| wordEdge (isWord : Char → Bool)
| noWordEdge (isWord : Char → Bool)
| wordStart (isWord : Char → Bool)
| wordEnd (isWord : Char → Bool)
| wordStartHalf (isWord : Char → Bool)
| wordEndHalf (isWord : Char → Bool)

/- The character in front of a place. -/
def before?
    (text : Array Char)
    (place : Nat) : Option Char :=
  match place with
  | 0 => none
  | i + 1 => text[i]?

/- The character behind a place. -/
def after?
    (text : Array Char)
    (place : Nat) : Option Char :=
  text[place]?

/- Whether there is a character and it passes a test. -/
def passes
    (test : Char → Bool)
    (c : Option Char) : Bool :=
  c.elim false test

/- Whether an anchor holds at a place of a text. -/
def Anchor.holds
    (text : Array Char)
    (place : Nat) : Anchor → Bool
| .textStart => place == 0
| .textEnd => place == text.size
| .lineStart =>
    place == 0 || before? text place == some '\n'
| .lineEnd =>
    place == text.size || after? text place == some '\n'
| .returnLineStart =>
    place == 0 || before? text place == some '\n' ||
      (before? text place == some '\r' &&
        after? text place != some '\n')
| .returnLineEnd =>
    place == text.size || after? text place == some '\r' ||
      (after? text place == some '\n' &&
        before? text place != some '\r')
| .wordEdge w =>
    passes w (before? text place) !=
      passes w (after? text place)
| .noWordEdge w =>
    passes w (before? text place) ==
      passes w (after? text place)
| .wordStart w =>
    !passes w (before? text place) &&
      passes w (after? text place)
| .wordEnd w =>
    passes w (before? text place) &&
      !passes w (after? text place)
| .wordStartHalf w => !passes w (before? text place)
| .wordEndHalf w => !passes w (after? text place)

end Regex

------------------------------------------------------------
-- Expressions
------------------------------------------------------------

/-
  Regular expressions.  A repetition has a least and
  possibly a greatest number of rounds.
-/
inductive Regex where
| empty
| one (accepts : Char → Bool)
| anchor (a : Regex.Anchor)
| seq (first second : Regex)
| alt (left right : Regex)
| repeated (body : Regex) (least : Nat) (most : Option Nat)

namespace Regex

instance : Inhabited Regex := ⟨empty⟩

/-
  `Matches text r i j` says that `r` matches the part of the
  text from place `i` to place `j`.
-/
inductive Matches (text : Array Char) :
    Regex → Nat → Nat → Prop where
| empty {i : Nat} :
    Matches text .empty i i
| one {accepts : Char → Bool} {i : Nat} {c : Char}
    (found : text[i]? = some c)
    (accepted : accepts c = true) :
    Matches text (.one accepts) i (i + 1)
| anchor {a : Anchor} {i : Nat}
    (holds : a.holds text i = true) :
    Matches text (.anchor a) i i
| seq {r s : Regex} {i j k : Nat}
    (first : Matches text r i j)
    (second : Matches text s j k) :
    Matches text (.seq r s) i k
| left {r s : Regex} {i j : Nat}
    (side : Matches text r i j) :
    Matches text (.alt r s) i j
| right {r s : Regex} {i j : Nat}
    (side : Matches text s i j) :
    Matches text (.alt r s) i j
| done {r : Regex} {most : Option Nat} {i : Nat} :
    Matches text (.repeated r 0 most) i i
| more {r : Regex} {most : Option Nat} {i j k : Nat}
    (round : Matches text r i j)
    (rest :
      Matches text
        (.repeated r 0 (most.map (· - 1))) j k)
    (allowed : most ≠ some 0) :
    Matches text (.repeated r 0 most) i k
| required
    {r : Regex} {least : Nat} {most : Option Nat}
    {i j k : Nat}
    (round : Matches text r i j)
    (rest :
      Matches text
        (.repeated r least (most.map (· - 1))) j k) :
    Matches text (.repeated r (least + 1) most) i k

------------------------------------------------------------
-- Sets Of Places
------------------------------------------------------------

/- The places of a list that are not in another one. -/
def without (places seen : List Nat) : List Nat :=
  places.filter fun i => !seen.contains i

/- Append the places that are new. -/
def union (left right : List Nat) : List Nat :=
  left ++ without right left

/- Keep the first occurrence of each place. -/
def distinct (places : List Nat) : List Nat :=
  places.foldl
    (fun seen i => if seen.contains i then seen
      else seen ++ [i]) []

/-
  Take exactly a number of rounds, and stop early if no
  place is left.
-/
def rounds
    (step : List Nat → List Nat) :
    Nat → List Nat → List Nat
| 0, places => places
| n + 1, places =>
    if places.isEmpty then [] else
      rounds step n (step places)

/-
  Collect the places within a number of rounds.  Only places
  that are new need another round.
-/
def collect
    (step : List Nat → List Nat) :
    Nat → List Nat → List Nat → List Nat
| 0, seen, _ => seen
| n + 1, seen, frontier =>
    let fresh := without (step frontier) seen
    if fresh.isEmpty then seen
    else collect step n (seen ++ fresh) fresh

/-
  The places that matches of an expression reach from a set
  of places.  A text of length `n` has `n + 1` places, so
  more rounds than that reach nothing new.
-/
def reach
    (text : Array Char) :
    Regex → List Nat → List Nat
| .empty, places => places
| .one accepts, places =>
    places.filterMap fun i =>
      match text[i]? with
      | some c => if accepts c then some (i + 1) else none
      | none => none
| .anchor a, places =>
    places.filter fun i => a.holds text i
| .seq r s, places =>
    reach text s (reach text r places)
| .alt r s, places =>
    union (reach text r places) (reach text s places)
| .repeated r least most, places =>
    let step := fun ps => distinct (reach text r ps)
    let limit := text.size + 1
    let start := rounds step (min least limit) places
    let extra :=
      match most with
      | none => limit
      | some n => min (n - least) limit
    collect step extra start start

/- Whether some part of a text matches. -/
def search
    (r : Regex)
    (text : String) : Bool :=
  let chars := text.toList.toArray
  !(reach chars r (List.range (chars.size + 1))).isEmpty

end Regex

end TreeKeeper
