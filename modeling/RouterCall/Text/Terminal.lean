/-!
# Texts that a terminal shows

A terminal takes some controls as orders: to ring, to move back, to start a new page, to begin a
sequence that does anything else. A text that somebody else has a part in is shown with escapes in
the place of these, and with everything else as it is. Line breaks and tabs are no orders.

## Main definitions

* `Terminal.spell`: a character, or the escape in its place
* `Terminal.shown`: a text without orders
-/

namespace RouterCall.Terminal

/-- The controls of seven bits that a terminal takes as orders. -/
def shortOrders : List Char := ['\x07', '\x08', '\x0c', '\x1b', '\x7f']

/-- Whether a character is a control of eight bits. -/
def isHighControl (c : Char) : Bool := 0x80 ≤ c.toNat && c.toNat ≤ 0x9f

/-- The code of a character in two digits at least. -/
def code (c : Char) : List Char :=
  (if c.toNat < 16 then ['0'] else []) ++ Nat.toDigits 16 c.toNat

/-- The spelling of one character. -/
def spell (c : Char) : List Char :=
  if c ∈ shortOrders then '\\' :: 'x' :: code c
  else if isHighControl c then ['\\', 'u', '\x7b'] ++ code c ++ ['\x7d']
  else [c]

/-- A text without orders. -/
def shown (text : String) : String := String.ofList (text.toList.flatMap spell)

end RouterCall.Terminal
