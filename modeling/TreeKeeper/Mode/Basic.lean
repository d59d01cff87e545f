import TreeKeeper.Text.Numeral
import TreeKeeper.Filter.Basic

/-
  Permission modes in octal and in symbolic form.  A symbolic
  mode is a list of clauses, each with classes of users and
  at least one action, and is applied to the empty mode from
  left to right.

  Key definitions include:
    * `Mode.Fault`
    * `Mode.Fault.message`
    * `Mode.Change`
    * `Mode.Grant`
    * `Mode.Action`
    * `Mode.Clause`
    * `Mode.Clause.ofText?`
    * `Mode.Action.apply`
    * `Mode.ofText`
    * `Mode.filter`
-/

------------------------------------------------------------
-- Faults
------------------------------------------------------------

namespace TreeKeeper

namespace Mode

/- Why an argument is no mode. -/
inductive Fault where
| empty
| octal (text : String)
| octalRange (text : String)
| clause (text : String)
deriving DecidableEq

/- The report of a fault. -/
def Fault.message : Fault → String
| empty => "empty mode"
| octal text => "invalid octal mode '" ++ text ++ "'"
| octalRange text =>
    "octal mode '" ++ text ++ "' out of range"
| clause text => "invalid symbolic mode '" ++ text ++ "'"

------------------------------------------------------------
-- Classes And Letters
------------------------------------------------------------

/- The bits of the owner, with the set-user bit. -/
def userBits : UInt32 := 0o4700

/- The bits of the group, with the set-group bit. -/
def groupBits : UInt32 := 0o2070

/- The bits of everybody else, with the sticky bit. -/
def otherBits : UInt32 := 0o1007

/- Every bit of a mode. -/
def allBits : UInt32 := 0o7777

/- The bits of the class with a given letter. -/
def classBits? (letter : Char) : Option UInt32 :=
  match letter with
  | 'u' => some userBits
  | 'g' => some groupBits
  | 'o' => some otherBits
  | 'a' => some allBits
  | _ => none

/- What an action does with the bits it names. -/
inductive Change where
| remove
| add
| set
deriving DecidableEq

/- The change with a given sign. -/
def Change.ofSign? (c : Char) : Option Change :=
  match c with
  | '-' => some remove
  | '+' => some add
  | '=' => some set
  | _ => none

/- A class whose permissions are copied. -/
inductive Source where
| user
| group
| other
deriving DecidableEq

/- The source with a given letter. -/
def Source.ofLetter? (c : Char) : Option Source :=
  match c with
  | 'u' => some user
  | 'g' => some group
  | 'o' => some other
  | _ => none

/- The letters of permissions. -/
inductive Letter where
| read
| write
| execute
| executeIfAny
| setId
| sticky
deriving DecidableEq

/- The permission with a given letter. -/
def Letter.ofChar? (c : Char) : Option Letter :=
  match c with
  | 'r' => some read
  | 'w' => some write
  | 'x' => some execute
  | 'X' => some executeIfAny
  | 's' => some setId
  | 't' => some sticky
  | _ => none

------------------------------------------------------------
-- Clauses
------------------------------------------------------------

/- The bits that an action names. -/
inductive Grant where
| letters (ls : List Letter)
| copy (source : Source)
deriving DecidableEq

/- One action of a clause. -/
structure Action where
  change : Change
  grant : Grant
deriving DecidableEq

/-
  Actions for some classes of users.  No class at all means
  every class.
-/
structure Clause where
  classes : UInt32
  actions : List Action
deriving DecidableEq

/- The union of the classes in front, and the rest. -/
def takeClasses :
    UInt32 → List Char → UInt32 × List Char
| bits, [] => (bits, [])
| bits, c :: rest =>
    match classBits? c with
    | some b => takeClasses (bits ||| b) rest
    | none => (bits, c :: rest)

/- The permission letters up to the next sign. -/
def takeLetters :
    List Char → Option (List Letter × List Char)
| [] => some ([], [])
| c :: rest =>
    if (Change.ofSign? c).isSome then some ([], c :: rest)
    else
      match Letter.ofChar? c, takeLetters rest with
      | some l, some (ls, left) => some (l :: ls, left)
      | _, _ => none

/- Read the bits that an action names. -/
def takeGrant
    (text : List Char) : Option (Grant × List Char) :=
  let plain := (takeLetters text).map fun (ls, left) =>
    (Grant.letters ls, left)
  match text with
  | c :: rest =>
      match Source.ofLetter? c with
      | some source => some (.copy source, rest)
      | none => plain
  | [] => plain

/- Read actions up to the end, within a number of steps. -/
def takeActions :
    Nat → List Char → Option (List Action)
| _, [] => some []
| 0, _ :: _ => none
| fuel + 1, c :: rest =>
    match Change.ofSign? c, takeGrant rest with
    | some change, some (grant, left) =>
        (takeActions fuel left).map (⟨change, grant⟩ :: ·)
    | _, _ => none

/- Read a clause, which has at least one action. -/
def Clause.ofText? (text : List Char) : Option Clause :=
  let (classes, rest) := takeClasses 0 text
  match takeActions rest.length rest with
  | some (a :: actions) => some ⟨classes, a :: actions⟩
  | _ => none

------------------------------------------------------------
-- Applying Clauses
------------------------------------------------------------

/- The bits that a clause may touch. -/
def reachOf (classes : UInt32) : UInt32 :=
  if classes = 0 then allBits else classes

/- The bits of a letter, given the mode before the action. -/
def Letter.bits (mode : UInt32) : Letter → UInt32
| read => 0o444
| write => 0o222
| execute => 0o111
| executeIfAny =>
    if mode &&& 0o111 ≠ 0 then 0o111 else 0
| setId => 0o6000
| sticky => 0o1000

/- The three permission bits of a class. -/
def Source.bits (mode : UInt32) : Source → UInt32
| user => mode >>> 6 &&& 0o7
| group => mode >>> 3 &&& 0o7
| other => mode &&& 0o7

/- The bits that an action names, in the classes it is for. -/
def Grant.bits
    (classes mode : UInt32) : Grant → UInt32
| letters ls =>
    ls.foldl
      (fun bits l =>
        bits ||| (l.bits mode &&& reachOf classes)) 0
| copy source =>
    let rwx := source.bits mode
    (rwx <<< 6 ||| rwx <<< 3 ||| rwx) &&&
      reachOf classes &&& 0o777

/- Apply one action to a mode. -/
def Action.apply
    (classes mode : UInt32)
    (action : Action) : UInt32 :=
  let bits := action.grant.bits classes mode
  match action.change with
  | .remove => mode &&& ~~~bits
  | .add => mode ||| bits
  | .set => (mode &&& ~~~(reachOf classes)) ||| bits

/- Apply the actions of a clause to a mode. -/
def Clause.apply
    (mode : UInt32)
    (clause : Clause) : UInt32 :=
  clause.actions.foldl (Action.apply clause.classes) mode

------------------------------------------------------------
-- Modes
------------------------------------------------------------

/- Read an octal mode of at most four digits' value. -/
def ofOctal (text : String) : Except Fault UInt32 :=
  match Numeral.unsigned? 8 UInt32.size text.toList with
  | none => .error (.octal text)
  | some n =>
      if 0o7777 < n then .error (.octalRange text)
      else .ok (UInt32.ofNat n)

/- Apply clauses from left to right. -/
def applyClauses :
    UInt32 → List (List Char) → Except Fault UInt32
| mode, [] => .ok mode
| mode, text :: rest =>
    match Clause.ofText? text with
    | some clause => applyClauses (clause.apply mode) rest
    | none => .error (.clause (String.ofList text))

/-
  Read a mode.  A digit in front makes it octal, and anything
  else symbolic.
-/
def ofText (text : String) : Except Fault UInt32 :=
  match text.toList with
  | [] => .error .empty
  | c :: rest =>
      if c.isDigit then ofOctal text
      else
        applyClauses 0 (Text.splitOn ',' (c :: rest))

/-
  The filter of a mode.  A hyphen asks for all of its bits, a
  slash for some of them, and nothing for exactly these.
-/
def filter (text : String) : Except Fault Filter := do
  let (op, rest) ←
    match text.toList with
    | [] => throw .empty
    | '-' :: rest => pure (Operator.allSet, rest)
    | '/' :: rest => pure (Operator.anySet, rest)
    | rest => pure (Operator.equal, rest)
  let mode ← ofText (String.ofList rest)
  return .compare .mode op (.unsigned mode.toUInt64)

end Mode

end TreeKeeper
