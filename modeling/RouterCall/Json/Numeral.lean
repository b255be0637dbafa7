import RouterCall.Json.Binary64

/-!
# JSON number literals

A `Numeral` is a number as it is written: sign, whole digits, digits after the point, exponent. Its
grammar is that of RFC 8259, so no leading zeros, no leading `+`, and at least one digit on each
side of a point.

Writing a double goes the other way. `Binary64.numeral` picks the literal with the fewest digits
that reads back as the double, the nearest one among those. Whether a candidate reads back is asked
of the reader itself, so the choice needs no theory of rounding intervals; should no short candidate
do, the exact expansion always does.

## Main definitions

* `Numeral.scan`: the longest literal a text starts with
* `Numeral.chars`: the text of a literal
* `Numeral.double?`: the double a literal denotes
* `Binary64.numeral`: the shortest literal that denotes a double

## Main results

* `Binary64.double?_numeral`: the literal chosen for a double denotes that double
-/

namespace RouterCall

-- powers are those of the numbers themselves, whatever other powers are in scope
attribute [local instance (high)] instPowNat

/-- A number as written. A literal without a point has no `fraction` digits. -/
structure Numeral where
  negative : Bool
  whole : List Char
  fraction : List Char
  exponent : Option Int
deriving DecidableEq

namespace Numeral

/-! ### Reading -/

/-- The digits a text starts with, and what follows them. -/
def digits (cs : List Char) : List Char × List Char := cs.span Char.isDigit

/-- The whole part: a single `0`, or digits that do not start with `0`. -/
def scanWhole : List Char → Option (List Char × List Char)
  | '0' :: rest => some (['0'], rest)
  | cs => match digits cs with
    | ([], _) => none
    | found => some found

/-- The digits after a point, if there is a point. -/
def scanFraction : List Char → Option (List Char × List Char)
  | '.' :: rest => match digits rest with
    | ([], _) => none
    | found => some found
  | cs => some ([], cs)

/-- The sign of an exponent, and what follows it. -/
def scanSign : List Char → Bool × List Char
  | '-' :: rest => (true, rest)
  | '+' :: rest => (false, rest)
  | cs => (false, cs)

/-- The exponent, if there is an `e` or `E`. -/
def scanExponent : List Char → Option (Option Int × List Char)
  | c :: rest =>
    if c = 'e' ∨ c = 'E' then
      let (negative, rest) := scanSign rest
      match digits rest with
      | ([], _) => none
      | (found, rest) =>
        let size : Int := Nat.ofDigitChars 10 found 0
        some (some (if negative then -size else size), rest)
    else some (none, c :: rest)
  | [] => some (none, [])

/-- The literal a text starts with, and what follows it. -/
def scan (cs : List Char) : Option (Numeral × List Char) := do
  let (negative, cs) := match cs with
    | '-' :: rest => (true, rest)
    | cs => (false, cs)
  let (whole, cs) ← scanWhole cs
  let (fraction, cs) ← scanFraction cs
  let (exponent, cs) ← scanExponent cs
  return (⟨negative, whole, fraction, exponent⟩, cs)

/-! ### Writing -/

/-- The decimal digits of a natural number. -/
def decimal (n : Nat) : List Char := Nat.toDigits 10 n

/-- The text of an exponent; its sign is always written. -/
def exponentChars : Option Int → List Char
  | none => []
  | some (.ofNat n) => 'e' :: '+' :: decimal n
  | some (.negSucc n) => 'e' :: '-' :: decimal (n + 1)

/-- The text of a literal. -/
def chars (n : Numeral) : List Char :=
  (if n.negative then ['-'] else []) ++ n.whole
    ++ (if n.fraction = [] then [] else '.' :: n.fraction) ++ exponentChars n.exponent

/-! ### What a literal denotes -/

/-- A literal is an integer when it has neither a point nor an exponent. -/
def isInteger (n : Numeral) : Bool := n.fraction = [] && n.exponent = none

/-- The digits of a literal as one natural number. -/
def digitValue (n : Numeral) : Nat := Nat.ofDigitChars 10 (n.whole ++ n.fraction) 0

/-- The power of ten that `digitValue` is scaled by. -/
def scale (n : Numeral) : Int := n.exponent.getD 0 - n.fraction.length

/-- The double nearest to the number written; `none` when it is past the largest double. That the
nearest one is found, and with it that printed doubles are read back, is assumed of the program's
JSON library. -/
def double? (n : Numeral) : Option Binary64 :=
  Binary64.ofDecimal? n.negative n.digitValue n.scale

/-! ### Laying out digits -/

/-- The literal for `d.ddd * 10 ^ lead`, where `ds` are the digits `dddd`. Small exponents are
written out, with at least one digit on each side of the point; all others are scientific. -/
def layOut (negative : Bool) (ds : List Char) (lead : Int) : Numeral :=
  if -5 ≤ lead ∧ lead < 0 then
    ⟨negative, ['0'], List.replicate (-lead - 1).toNat '0' ++ ds, none⟩
  else if 0 ≤ lead ∧ lead ≤ 15 then
    let before := lead.toNat + 1
    let after := ds.drop before
    ⟨negative, ds.take before ++ List.replicate (before - ds.length) '0',
      if after = [] then ['0'] else after, none⟩
  else ⟨negative, ds.take 1, ds.drop 1, some lead⟩

/-- The literal for `n * 10 ^ exponent`, without trailing zeros among its significant digits. -/
def ofScaled (negative : Bool) (n : Nat) (exponent : Int) : Numeral :=
  let ds := decimal n
  let significant := (ds.reverse.dropWhile (· = '0')).reverse
  layOut negative significant (exponent + ds.length - 1)

end Numeral

namespace Binary64

open Numeral

/-- The power of ten of the leading digit. -/
def leadingPower (x : Binary64) : Int :=
  if 2 ^ places ≤ x.magnitude then (decimal (x.magnitude / 2 ^ places)).length - 1
  else
    let reciprocal := (2 ^ places + x.magnitude - 1) / x.magnitude
    if reciprocal ≤ 1 then 0 else Int.neg (decimal (reciprocal - 1)).length

/-- The two neighbours of a double on the grid of `precision` digits, the nearer one first. -/
def neighbours (x : Binary64) (precision : Nat) : List Numeral :=
  let unit : Int := x.leadingPower - (precision - 1)
  let num := x.magnitude * 10 ^ (-unit).toNat
  let den := 2 ^ places * 10 ^ unit.toNat
  let below := num / den
  let ordered := if divNearest num den = below then [below, below + 1] else [below + 1, below]
  ordered.map (ofScaled x.negative · unit)

/-- The shortest literal that reads back as the double, looked for up to 17 digits. -/
def shortest? (x : Binary64) : Option Numeral :=
  ((List.range 17).flatMap fun n => x.neighbours (n + 1)).find? fun n => n.double? = some x

/-- The literal a double is written as. -/
def numeral (x : Binary64) : Numeral :=
  if x.significand = 0 then ⟨x.negative, ['0'], ['0'], none⟩
  else x.shortest?.getD ⟨x.negative, decimal x.exactDigits, [], some (-places)⟩

theorem double?_of_shortest? {x : Binary64} {n : Numeral} (h : x.shortest? = some n) :
    n.double? = some x := by
  have := List.find?_some h
  simpa using this

/-- **The literal chosen for a double denotes that double.** -/
theorem double?_numeral (x : Binary64) : x.numeral.double? = some x := by
  rw [numeral]
  split
  · next empty =>
    have shape : x = zero x.negative := by
      obtain ⟨negative, significand, shift, lt, normal, le⟩ := x
      simp only at empty
      subst empty
      have : shift = 0 := by
        rcases normal with h | h
        · exact h
        · exact absurd h (by decide)
      subst this
      rfl
    rw [shape]
    cases x.negative <;> rfl
  · next nonzero =>
    cases found : x.shortest? with
    | some n => simpa using double?_of_shortest? found
    | none =>
      simp only [Option.getD_none, double?, digitValue, scale, decimal, List.append_nil,
        Nat.ofDigitChars_toDigits (by decide : 1 < 10) (by decide), Option.getD_some,
        List.length_nil, Int.natCast_zero, Int.sub_zero]
      exact ofDecimal?_exactDigits x nonzero

end Binary64

end RouterCall
