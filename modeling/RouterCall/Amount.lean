import RouterCall.HexString
import RouterCall.Json.Value
import RouterCall.Text.Hex

/-!
# Amounts

Token amounts at eighteen decimals pass 64 bits as a matter of course, so an `Amount` is a natural
number of any size. On the wire it is a string, or a big-number object holding a string; a JSON
number is never an amount.

A string is an amount in one of two numerals: decimal digits, or `0x` followed by hexadecimal digits
of either case. Leading zeros are fine, anything else is not: no sign, no separator, no blank.

## Main definitions

* `Amount.parse`: the amount a numeral denotes, or why it denotes none
* `Amount.ofJson?`: the amount a JSON value encodes
* `Amount.decimal`: the decimal numeral of an amount, in which every amount is written out
-/

namespace RouterCall

/-- A quantity of any size. -/
structure Amount where
  value : Nat
deriving DecidableEq, Inhabited

/-- Why a text is not an amount. -/
inductive AmountError where
  | empty
  | notAnInteger (text : String)
  | invalidHex (text : String)
deriving DecidableEq

/-- The wording of an amount error. -/
def AmountError.message : AmountError → String
  | .empty => "amount is empty"
  | .notAnInteger text => "amount '" ++ text ++ "' is not a non-negative integer"
  | .invalidHex text => "hex amount '" ++ text ++ "' contains non-hex digits"

namespace Amount

/-! ### Numerals -/

/-- The amount a numeral denotes. -/
def parse (text : String) : Except AmountError Amount :=
  match text.toList with
  | [] => .error .empty
  | '0' :: 'x' :: digits =>
    if digits ≠ [] ∧ digits.all Hex.isDigit then .ok ⟨Hex.value digits⟩
    else .error (.invalidHex text)
  | digits =>
    if digits.all Char.isDigit then .ok ⟨Nat.ofDigitChars 10 digits 0⟩
    else .error (.notAnInteger text)

/-- The decimal numeral of an amount, without leading zeros. -/
def decimal (amount : Amount) : String := toString amount.value

/-! ### Encodings in JSON -/

/-- The amount a JSON value encodes: a numeral, or an object whose `type` is `BigNumber` and whose
`hex` is a numeral that begins with `0x`. -/
def ofJson? : Json → Option Amount
  | .string text => (parse text).toOption
  | .object members => do
    guard (members.lookup "type" >>= Json.asString? = some "BigNumber")
    let hex ← members.lookup "hex" >>= Json.asString?
    guard (HexString.begins hex)
    (parse hex).toOption
  | _ => none

/-- The encoding of an amount: its decimal numeral. -/
def toJson (amount : Amount) : Json := .string amount.decimal

/-! ### Size -/

/-- The number of binary digits; zero has none. -/
def bitLength (amount : Amount) : Nat := if amount.value = 0 then 0 else amount.value.log2 + 1

/-- Whether an amount is zero. -/
def isZero (amount : Amount) : Bool := amount.value = 0

end Amount

end RouterCall
