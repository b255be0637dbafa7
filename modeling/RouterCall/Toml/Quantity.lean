import RouterCall.Json.Numeral
import RouterCall.Text.Hex

/-!
# Numbers and moments of TOML

No setting is a number, but a settings file may hold numbers and moments under keys that are passed
over, and a file in which they are malformed is no TOML. So this module decides which words are
quantities and does not say which.

A decimal number is a numeral as in JSON, with three additions: a plus sign, underscores that stand
between two digits, and the words for infinities and for no number. The range of integers is that of
128 bits, and the range of fractions ends with the largest double; a number out of range is still a
number. A moment is a date, a time of day, or both with or without an offset, on the proleptic
Gregorian calendar.

## Main definitions

* `Toml.number?`: decimal, hexadecimal, octal and binary numbers
* `Toml.isMoment`: dates and times
-/

namespace RouterCall.Toml

/-! ### Numbers -/

/-- A word without the underscores that stand between two digits. -/
def dropSeparators (isDigit : Char → Bool) : List Char → List Char
  | a :: '_' :: b :: rest =>
    if isDigit a && isDigit b then a :: dropSeparators isDigit (b :: rest)
    else a :: '_' :: dropSeparators isDigit (b :: rest)
  | c :: rest => c :: dropSeparators isDigit rest
  | [] => []
termination_by cs => cs.length

-- powers are those of the numbers themselves, whatever other powers are in scope
attribute [local instance (high)] instPowNat

/-- Whether an integer fits 128 bits, signed or unsigned. -/
def fits128 (n : Int) : Bool := -2 ^ (127 : Nat) ≤ n && n < 2 ^ (128 : Nat)

/-- Whether a word is a decimal number, and then whether that lies in range. -/
def decimal? (word : List Char) : Option Bool :=
  let word := dropSeparators Char.isDigit word
  let unsigned := match word with
    | '+' :: '-' :: _ => []
    | '+' :: rest => rest
    | word => word
  match Numeral.scan unsigned with
  | some (numeral, []) =>
    if numeral.isInteger then
      some (fits128 (if numeral.negative then -numeral.digitValue else numeral.digitValue))
    else some numeral.double?.isSome
  | _ => none

/-- Whether a word is an infinity or no number. -/
def isSpecial (word : List Char) : Bool :=
  let unsigned := match word with
    | '+' :: rest | '-' :: rest => rest
    | word => word
  unsigned = ['i', 'n', 'f'] || unsigned = ['n', 'a', 'n']

/-- Whether a row of characters is digits of a base with underscores between them, and then whether
their value lies in range. -/
def based? (base : Nat) (isDigit : Char → Bool) (word : List Char) : Option Bool :=
  let digits := dropSeparators isDigit word
  if digits ≠ [] && digits.all isDigit then
    some (fits128 (digits.foldl (fun value c => base * value + Hex.digitValue c) 0 : Nat))
  else none

/-- Whether a word is a number, and then whether that lies in range. -/
def number? (word : List Char) : Option Bool :=
  match word with
  | '0' :: 'x' :: digits => based? 16 Hex.isDigit digits
  | '0' :: 'o' :: digits => based? 8 (fun c => '0' ≤ c && c ≤ '7') digits
  | '0' :: 'b' :: digits => based? 2 (fun c => c = '0' || c = '1') digits
  | word => if isSpecial word then some true else decimal? word

/-! ### Moments -/

/-- The number that a row of decimal digits writes, if it lies between two bounds. -/
def between? (low high : Nat) (digits : List Char) : Option Nat := do
  guard (digits.all Char.isDigit)
  let n := Nat.ofDigitChars 10 digits 0
  guard (low ≤ n ∧ n ≤ high)
  return n

/-- The number of days of a month. -/
def daysIn (year month : Nat) : Nat :=
  if month = 2 then
    if year % 4 = 0 ∧ (year % 100 ≠ 0 ∨ year % 400 = 0) then 29 else 28
  else if month ∈ [4, 6, 9, 11] then 30
  else 31

/-- What follows the date at the start of a word. -/
def afterDate? : List Char → Option (List Char)
  | y₁ :: y₂ :: y₃ :: y₄ :: '-' :: m₁ :: m₂ :: '-' :: d₁ :: d₂ :: rest => do
    let year ← between? 0 9999 [y₁, y₂, y₃, y₄]
    let month ← between? 1 12 [m₁, m₂]
    let _ ← between? 1 (daysIn year month) [d₁, d₂]
    return rest
  | _ => none

/-- What follows the seconds of a time of day, and their fraction. -/
def afterSeconds? : List Char → Option (List Char)
  | ':' :: s₁ :: s₂ :: rest => do
    let _ ← between? 0 60 [s₁, s₂]
    match rest with
    | '.' :: d :: rest => if d.isDigit then return rest.dropWhile Char.isDigit else none
    | rest => return rest
  | rest => some rest

/-- What follows the time of day at the start of a word. Seconds may be left out. -/
def afterTime? : List Char → Option (List Char)
  | h₁ :: h₂ :: ':' :: m₁ :: m₂ :: rest => do
    let _ ← between? 0 23 [h₁, h₂]
    let _ ← between? 0 59 [m₁, m₂]
    afterSeconds? rest
  | _ => none

/-- Whether a word is empty or an offset from universal time. -/
def isOffset : List Char → Bool
  | [] => true
  | [c] => c = 'Z' || c = 'z'
  | [sign, h₁, h₂, ':', m₁, m₂] =>
    (sign = '+' || sign = '-') && (between? 0 23 [h₁, h₂]).isSome
      && (between? 0 59 [m₁, m₂]).isSome
  | _ => false

/-- Whether a word is a moment. A blank may divide a date from a time. -/
def isMoment (word : List Char) : Bool :=
  match afterDate? word with
  | some [] => true
  | some (c :: rest) =>
    (c = 'T' || c = 't' || c = ' ') && (match afterTime? rest with
      | some offset => isOffset offset
      | none => false)
  | none => afterTime? word = some []

end RouterCall.Toml
