import TreeKeeper.Json.Basic

/-
  JSON values as text without blanks.  Quotes, backslashes
  and control characters are escaped, and all else stands
  for itself.

  Key definitions include:
    * `Json.escape`
    * `Json.render`
-/

------------------------------------------------------------
-- Strings
------------------------------------------------------------

namespace TreeKeeper

namespace Json

/- The hexadecimal digit of a number below sixteen. -/
def hexDigit (n : Nat) : Char :=
  Nat.digitChar n

/- A character of a string as it is written. -/
def escapeChar (c : Char) : List Char :=
  match c with
  | '"' => ['\\', '"']
  | '\\' => ['\\', '\\']
  | '\x08' => ['\\', 'b']
  | '\x0c' => ['\\', 'f']
  | '\n' => ['\\', 'n']
  | '\r' => ['\\', 'r']
  | '\t' => ['\\', 't']
  | c =>
      if c.toNat < 32 then
        ['\\', 'u', '0', '0', hexDigit (c.toNat / 16),
          hexDigit (c.toNat % 16)]
      else [c]

/- The characters of a string as they are written. -/
def escape (text : List Char) : List Char :=
  text.flatMap escapeChar

/- A string between quotes. -/
def quote (text : List Char) : List Char :=
  '"' :: escape text ++ ['"']

------------------------------------------------------------
-- Values
------------------------------------------------------------

/- A string, where a broken one counts as empty. -/
def renderString (text : Option String) : List Char :=
  quote (text.getD "").toList

mutual

/- A value as characters. -/
def renderValue : Json → List Char
| null => "null".toList
| bool true => "true".toList
| bool false => "false".toList
| number digits => digits
| string text => renderString text
| array [] => ['[', ']']
| array (item :: items) =>
    '[' :: renderValue item ++ renderItems items
| object [] => ['\x7b', '\x7d']
| object ((name, value) :: fields) =>
    '\x7b' :: renderString name ++
      ':' :: renderValue value ++ renderFields fields

/- The items behind the first one, and the bracket. -/
def renderItems : List Json → List Char
| [] => [']']
| item :: items =>
    ',' :: renderValue item ++ renderItems items

/- The fields behind the first one, and the brace. -/
def renderFields :
    List (Option String × Json) → List Char
| [] => ['\x7d']
| (name, value) :: fields =>
    ',' :: renderString name ++
      ':' :: renderValue value ++ renderFields fields

end

/- A value as text. -/
def render (json : Json) : String :=
  String.ofList (renderValue json)

end Json

end TreeKeeper
