import RouterCall.Text.Unseen

/-!
# Quoted names in messages

A message that names a file puts the name between double quotes, so that blanks at its ends can be
seen. A character that would end the quotes, or that a terminal does not show as itself, is written
as an escape; every other character stands for itself. Names go into messages only: nothing reads
them back.

## Main definitions

* `Quoted.escape`: the spelling of one character
* `Quoted.render`: a name between quotes
-/

namespace RouterCall.Quoted

/-- The spelling of one character between quotes. -/
def escape (c : Char) : List Char :=
  if c = '"' then ['\\', '"']
  else if c = '\\' then ['\\', '\\']
  else if c = '\t' then ['\\', 't']
  else if c = '\n' then ['\\', 'n']
  else if c = '\r' then ['\\', 'r']
  else if c.toNat = 0 then ['\\', '0']
  else if Unseen.isUnseen c then ['\\', 'u', '\x7b'] ++ Nat.toDigits 16 c.toNat ++ ['\x7d']
  else [c]

/-- A name between quotes. -/
def render (name : String) : String :=
  String.ofList ('"' :: (name.toList.flatMap escape ++ ['"']))

end RouterCall.Quoted
