import RouterCall.Json.Document

/-!
# Writing JSON

Two layouts of the same tokens: `Json.compact` has no blanks at all, `Json.pretty` puts every item
and member on a line of its own, indented by two spaces for each container around it. Members are
written in the order in which the value lists them.

A string is written with as few escapes as the grammar allows: the quote, the backslash, and the
characters below U+0020. Everything else stands for itself.

## Main definitions

* `Json.quote`: a string literal
* `Json.compactChars`, `Json.prettyChars`: the two layouts as lists of characters
* `Json.compact`, `Json.pretty`: the same as strings
-/

namespace RouterCall

namespace Json

/-! ### String literals -/

/-- The lowercase hexadecimal digit of a number below 16. -/
def hexDigit (n : Nat) : Char := Nat.digitChar n

/-- The spelling of one character inside a string literal. -/
def escape (c : Char) : List Char :=
  if c = '"' then ['\\', '"']
  else if c = '\\' then ['\\', '\\']
  else if c = '\x08' then ['\\', 'b']
  else if c = '\x0c' then ['\\', 'f']
  else if c = '\n' then ['\\', 'n']
  else if c = '\r' then ['\\', 'r']
  else if c = '\t' then ['\\', 't']
  else if c.toNat < 0x20 then
    ['\\', 'u', '0', '0', hexDigit (c.toNat / 16), hexDigit (c.toNat % 16)]
  else [c]

/-- The string literal for a text, quotes included. -/
def quote (text : String) : List Char :=
  '"' :: (text.toList.flatMap escape ++ ['"'])

/-! ### The compact layout -/

mutual

/-- A value without blanks. -/
def compactChars : Json → List Char
  | .null => ['n', 'u', 'l', 'l']
  | .bool true => ['t', 'r', 'u', 'e']
  | .bool false => ['f', 'a', 'l', 's', 'e']
  | .number n => n.numeral.chars
  | .string s => quote s
  | .array items => '[' :: (compactItems items ++ [']'])
  | .object members => '{' :: (compactMembers members ++ ['}'])

/-- Items divided by commas. -/
def compactItems : List Json → List Char
  | [] => []
  | [item] => compactChars item
  | item :: items => compactChars item ++ ',' :: compactItems items

/-- Members divided by commas. -/
def compactMembers : List (String × Json) → List Char
  | [] => []
  | [(key, value)] => quote key ++ ':' :: compactChars value
  | (key, value) :: members =>
    quote key ++ ':' :: (compactChars value ++ ',' :: compactMembers members)

end

/-- A value without blanks. -/
def compact (value : Json) : String := String.ofList value.compactChars

/-! ### The pretty layout -/

/-- A line break followed by the indentation of `depth` containers. -/
def newLine (depth : Nat) : List Char := '\n' :: List.replicate (2 * depth) ' '

mutual

/-- A value inside `depth` containers, every item and member on its own line. -/
def prettyChars (depth : Nat) : Json → List Char
  | .array [] => ['[', ']']
  | .array (item :: items) =>
    '[' :: (prettyItems (depth + 1) (item :: items) ++ newLine depth ++ [']'])
  | .object [] => ['{', '}']
  | .object (member :: members) =>
    '{' :: (prettyMembers (depth + 1) (member :: members) ++ newLine depth ++ ['}'])
  | .null => compactChars .null
  | .bool b => compactChars (.bool b)
  | .number n => compactChars (.number n)
  | .string s => compactChars (.string s)

/-- Items inside `depth` containers, each after a line break. -/
def prettyItems (depth : Nat) : List Json → List Char
  | [] => []
  | [item] => newLine depth ++ prettyChars depth item
  | item :: items => newLine depth ++ prettyChars depth item ++ ',' :: prettyItems depth items

/-- Members inside `depth` containers, each after a line break. -/
def prettyMembers (depth : Nat) : List (String × Json) → List Char
  | [] => []
  | [(key, value)] => newLine depth ++ quote key ++ ':' :: ' ' :: prettyChars depth value
  | (key, value) :: members =>
    newLine depth ++ quote key ++ ':' :: ' ' ::
      (prettyChars depth value ++ ',' :: prettyMembers depth members)

end

/-- A value on several lines. -/
def pretty (value : Json) : String := String.ofList (value.prettyChars 0)

end Json

end RouterCall
