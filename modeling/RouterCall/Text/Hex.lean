/-!
# Hexadecimal digits

Numerals and escapes of every notation that the library reads write numbers in hexadecimal digits of
either case. What a row of digits denotes is said here once.

## Main definitions

* `Hex.isDigit`, `Hex.digitValue`: one digit
* `Hex.value`: a row of digits, the most significant first
* `Hex.value?`: the same for characters that may be anything
* `Hex.char?`: the character with a code
-/

namespace RouterCall.Hex

/-- Whether a character is a hexadecimal digit of either case. -/
def isDigit (c : Char) : Bool :=
  ('0' ≤ c && c ≤ '9') || ('a' ≤ c && c ≤ 'f') || ('A' ≤ c && c ≤ 'F')

/-- The value of a hexadecimal digit of either case. -/
def digitValue (c : Char) : Nat :=
  if c ≤ '9' then c.toNat - '0'.toNat
  else if c ≤ 'F' then c.toNat - 'A'.toNat + 10
  else c.toNat - 'a'.toNat + 10

/-- The positional value of a row of digits. -/
def value (digits : List Char) : Nat := digits.foldl (fun value c => 16 * value + digitValue c) 0

/-- The positional value of a row of characters, all of which must be digits. -/
def value? (digits : List Char) : Option Nat :=
  if digits.all isDigit then some (value digits) else none

/-- The character with a code written in a row of digits. -/
def char? (digits : List Char) : Option Char := do
  let code ← value? digits
  guard code.isValidChar
  return Char.ofNat code

end RouterCall.Hex
