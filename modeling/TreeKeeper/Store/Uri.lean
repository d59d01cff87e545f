import TreeKeeper.Text.Basic

/-
  The places of stores as texts: a scheme with the kind of
  the store and a path, or a path of a directory alone.

  Key definitions include:
    * `Uri`
    * `Uri.ofText`
    * `Uri.text`
-/

------------------------------------------------------------
-- Places
------------------------------------------------------------

namespace TreeKeeper

/- The place of a store. -/
inductive Uri where
| directory (path : String)
| snapshot (path : String)
deriving DecidableEq

namespace Uri

/- What places begin with that tell their kind. -/
def scheme : String :=
  "rbh:"

/- Whether a text tells the kind of a store. -/
def hasScheme (text : String) : Bool :=
  (Text.stripBeginning scheme.toList text.toList).isSome

/- Why a text is no place of a store. -/
inductive Fault where
| emptyPath
| noPath
| unknownKind
deriving DecidableEq

/- The report of a fault. -/
def Fault.message : Fault → String
| emptyPath => "empty path"
| noPath => "expected 'rbh:<backend>:<path>'"
| unknownKind => "unknown backend"

/- The kind of a place. -/
def kind : Uri → String
| directory _ => "posix"
| snapshot _ => "snapshot"

/- The path of a place. -/
def path : Uri → String
| directory path => path
| snapshot path => path

/- A place as a text. -/
def text (uri : Uri) : String :=
  scheme ++ uri.kind ++ ":" ++ uri.path

/- Read the kind and the path behind the scheme. -/
def ofBody (body : List Char) : Except Fault Uri :=
  let kind := String.ofList (body.takeWhile (· ≠ ':'))
  match body.dropWhile (· ≠ ':') with
  | [] => .error .noPath
  | [_] => .error .emptyPath
  | _ :: path =>
      let path := String.ofList path
      if kind = "posix" then .ok (directory path)
      else if kind = "snapshot" then .ok (snapshot path)
      else .error .unknownKind

/- The place that a text tells. -/
def ofText (text : String) : Except Fault Uri :=
  match Text.stripBeginning scheme.toList text.toList with
  | some body => ofBody body
  | none =>
      if text = "" then .error .emptyPath
      else .ok (directory text)

end Uri

end TreeKeeper
