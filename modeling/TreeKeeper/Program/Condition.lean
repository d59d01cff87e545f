import TreeKeeper.Text.Numeral
import TreeKeeper.World

/-
  Conditions on texts, numbers and files, as the program
  `test` checks them: one argument is a text, two are an
  operator and its operand, three have an operator between
  them, and a mark of exclamation negates what follows.

  Key definitions include:
    * `Condition.check`
    * `Condition.status`
-/

------------------------------------------------------------
-- Files
------------------------------------------------------------

namespace TreeKeeper

namespace Condition

/- The object at a path, at the end of all links. -/
def objectAt?
    (world : World)
    (path : String) : Option FileObject :=
  match world.tree.objectAt true world.directory path with
  | .ok (_, object) => some object
  | .error _ => none

/- Whether a path leads to a symbolic link. -/
def isLink (world : World) (path : String) : Bool :=
  match world.tree.look world.directory path with
  | .ok (.symlink _ _) => true
  | _ => false

/- Whether an object is a file. -/
def isFile : FileObject → Bool
| .file .. => true
| _ => false

/- Whether an object has more than no bytes. -/
def isFilled : FileObject → Bool
| .file _ text => text ≠ ""
| .directory attributes => attributes.size ≠ 0
| .symlink _ _ => true
| .special _ _ => false

/- Whether someone may execute an object. -/
def isExecutable : FileObject → Bool
| .file attributes _ => attributes.permissions &&& 0o111 != 0
| .directory _ => true
| .symlink _ _ => false
| .special attributes _ =>
    attributes.permissions &&& 0o111 != 0

------------------------------------------------------------
-- Operators
------------------------------------------------------------

/- Check an operator with one operand, if it is known. -/
def unary?
    (world : World)
    (operator operand : String) : Option Bool :=
  let object := objectAt? world operand
  match operator with
  | "-n" => some (operand ≠ "")
  | "-z" => some (operand = "")
  | "-e" => some object.isSome
  | "-f" => some (object.any isFile)
  | "-d" => some (object.any FileObject.isDirectory)
  | "-s" => some (object.any isFilled)
  | "-r" => some object.isSome
  | "-w" => some object.isSome
  | "-x" => some (object.any isExecutable)
  | "-L" => some (isLink world operand)
  | "-h" => some (isLink world operand)
  | _ => none

/- The order of two numerals. -/
def order?
    (left right : String) : Option Ordering := do
  let l ← Numeral.integer64? left
  let r ← Numeral.integer64? right
  return compare l r

/-
  Check an operator between two operands, if it is known.
  The inner result is missing for malformed numbers.
-/
def binary?
    (left operator right : String) :
    Option (Option Bool) :=
  match operator with
  | "=" => some (some (left == right))
  | "==" => some (some (left == right))
  | "!=" => some (some (left != right))
  | "-eq" => some ((order? left right).map (· == .eq))
  | "-ne" => some ((order? left right).map (· != .eq))
  | "-lt" => some ((order? left right).map (· == .lt))
  | "-le" => some ((order? left right).map (· != .gt))
  | "-gt" => some ((order? left right).map (· == .gt))
  | "-ge" => some ((order? left right).map (· != .lt))
  | _ => none

------------------------------------------------------------
-- Conditions
------------------------------------------------------------

/- Check a condition.  Malformed ones have no result. -/
def check (world : World) : List String → Option Bool
| [] => some false
| [text] => some (text ≠ "")
| ["!", text] => some (text = "")
| [operator, operand] => unary? world operator operand
| [left, operator, right] =>
    match binary? left operator right with
    | some result => result
    | none =>
        if operator = "-a" then
          some (left ≠ "" && right ≠ "")
        else if operator = "-o" then
          some (left ≠ "" || right ≠ "")
        else if left = "!" then
          (unary? world operator right).map not
        else if left = "(" ∧ right = ")" then
          some (operator ≠ "")
        else none
| "!" :: rest => (check world rest).map not
| _ => none

/- The status of a condition: zero if it holds. -/
def status (world : World) (args : List String) : Nat :=
  match check world args with
  | some true => 0
  | some false => 1
  | none => 2

end Condition

end TreeKeeper
