/-
  JSON values.  Numbers keep their text, since it decides
  which type of number they may stand for.  A string may be
  broken: an escape in it names half of a character whose
  other half is missing.

  Key definitions include:
    * `Json`
    * `Json.text?`
    * `Json.record?`
-/

------------------------------------------------------------
-- Values
------------------------------------------------------------

namespace TreeKeeper

/- JSON values.  A broken string has no text. -/
inductive Json where
| null
| bool (value : Bool)
| number (digits : List Char)
| string (text : Option String)
| array (items : List Json)
| object (fields : List (Option String × Json))

namespace Json

/- The text of a string that is not broken. -/
def text? : Json → Option String
| string text => text
| _ => none

/- Give the values of an array the names of fields. -/
def nameItems :
    List String → List Json →
      Option (List (String × Json))
| _, [] => some []
| [], _ :: _ => none
| name :: names, item :: items =>
    (nameItems names items).map ((name, item) :: ·)

/-
  Keep the fields with known names, each of which may occur
  once.
-/
def keepFields
    (names : List String) :
    List (Option String × Json) →
      Option (List (String × Json))
| [] => some []
| (none, _) :: _ => none
| (some name, value) :: rest =>
    match keepFields names rest with
    | none => none
    | some fields =>
        if names.contains name then
          if (fields.lookup name).isSome then none
          else some ((name, value) :: fields)
        else some fields

/-
  The fields of a record: an object, or an array with the
  values of the first fields in order.
-/
def record?
    (names : List String) :
    Json → Option (List (String × Json))
| array items => nameItems names items
| object fields => keepFields names fields
| _ => none

end Json

end TreeKeeper
