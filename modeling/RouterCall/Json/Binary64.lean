/-!
# Finite doubles as exact numbers

A JSON number that is not an integer stands for a finite IEEE double. `Binary64` holds such a double
as the pair of numbers its bits spell out, so that everything about it is arithmetic on `Nat`: the
value is `significand * 2 ^ shift` counted in units of `2 ^ (-1074)`, the spacing of the smallest
doubles. The fields carry the bounds that make the pair unique.

## Main definitions

* `Binary64.ofRatio?`: the double nearest to a quotient of two naturals, ties to even
* `Binary64.ofDecimal?`: the double nearest to `digits * 10 ^ exponent`

Both answer `none` exactly for magnitudes past the largest double; too small a magnitude gives a
zero of the written sign.

## What is deliberately absent

There is no infinity and no NaN, since no JSON number denotes one, and no arithmetic, since nothing
here adds doubles. Nothing goes through the machine's own floating point.

Nor is there a faster way of rounding. A JSON library may take one, and then miss the nearest double
by one place for a literal with many digits. What the program relies on is that the digits which are
printed for a double are read as that double. Rounding correctly has this built in, for every
literal, and so it is an assumption about the library and no result about it.
-/

namespace RouterCall

-- powers are those of the numbers themselves, whatever other powers are in scope
attribute [local instance (high)] instPowNat

/-- The smallest double is `2 ^ (-places)`; every double is a whole number of it. -/
def Binary64.places : Nat := 1074

/-- A finite double: `significand * 2 ^ shift` units of `2 ^ (-1074)`, with a sign. -/
structure Binary64 where
  negative : Bool
  significand : Nat
  shift : Nat
  significand_lt : significand < 2 ^ (53 : Nat)
  normal : shift = 0 ∨ 2 ^ (52 : Nat) ≤ significand
  shift_le : shift ≤ 2045
deriving DecidableEq

namespace Binary64

/-- The absolute value, in units of `2 ^ (-1074)`. -/
def magnitude (x : Binary64) : Nat := x.significand * 2 ^ x.shift

/-- The zero of the given sign; the two zeros are different doubles. -/
def zero (negative : Bool) : Binary64 :=
  ⟨negative, 0, 0, by decide, .inl rfl, by decide⟩

/-- Equality of the numbers denoted: the two zeros are equal as numbers. -/
def sameValue (x y : Binary64) : Bool :=
  x = y || (x.significand = 0 && y.significand = 0)

/-! ### Rounding a quotient -/

/-- The natural nearest to `num / den`; a tie goes to the even neighbour. -/
def divNearest (num den : Nat) : Nat :=
  if 2 * (num % den) < den then num / den
  else if den < 2 * (num % den) then num / den + 1
  else num / den + num / den % 2

theorem le_divNearest (num den : Nat) : num / den ≤ divNearest num den := by
  rw [divNearest]
  split
  · exact Nat.le_refl _
  · split <;> omega

/-- How far a whole part must be shifted right to have at most 53 bits. -/
def shiftFor (whole : Nat) : Nat := whole.log2 - 52

theorem le_shifted {whole : Nat} (shifts : shiftFor whole ≠ 0) :
    2 ^ (52 : Nat) ≤ whole / 2 ^ shiftFor whole := by
  have large : whole.log2 = 52 + shiftFor whole := by unfold shiftFor at shifts ⊢; omega
  have positive : whole ≠ 0 := by
    rintro rfl
    simp at large
    omega
  rw [Nat.le_div_iff_mul_le (Nat.two_pow_pos _), ← Nat.pow_add, ← large]
  exact Nat.log2_self_le positive

/-- Rounding at the chosen shift leaves a significand that is normal, or needs one carry. -/
theorem normal_divNearest (num den : Nat) :
    shiftFor (num / den) = 0 ∨
      2 ^ (52 : Nat) ≤ divNearest num (den * 2 ^ shiftFor (num / den)) := by
  by_cases shifts : shiftFor (num / den) = 0
  · exact .inl shifts
  · refine .inr (Nat.le_trans (le_shifted shifts) ?_)
    rw [Nat.div_div_eq_div_mul]
    exact le_divNearest _ _

/-- The double nearest to `num / den` units of `2 ^ (-1074)`, ties to even; `none` past the range.
-/
def ofRatio? (negative : Bool) (num den : Nat) : Option Binary64 :=
  let shift := shiftFor (num / den)
  let significand := divNearest num (den * 2 ^ shift)
  if fits : significand < 2 ^ (53 : Nat) then
    if range : shift ≤ 2045 then
      some ⟨negative, significand, shift, fits, normal_divNearest num den, range⟩
    else none
  else if range : shift + 1 ≤ 2045 then
    some ⟨negative, 2 ^ (52 : Nat), shift + 1, by decide, .inr (Nat.le_refl _), range⟩
  else none

/-! ### Rounding a decimal -/

/-- The double nearest to `digits * 10 ^ exponent`; `none` past the range.

The two comparisons of the exponent only keep the powers of ten small: beyond them the value is
larger than `10 ^ 400`, or smaller than `10 ^ (-399)`. The nearest double is more than every JSON
library promises for a literal with many digits; see the notes above. -/
def ofDecimal? (negative : Bool) (digits : Nat) (exponent : Int) : Option Binary64 :=
  if digits = 0 then some (zero negative)
  else if 400 < exponent then none
  else if exponent + 400 + digits.log2 < 0 then some (zero negative)
  else ofRatio? negative (digits * 10 ^ exponent.toNat * 2 ^ places) (10 ^ (-exponent).toNat)

@[simp] theorem ofDecimal?_zero (negative : Bool) (exponent : Int) :
    ofDecimal? negative 0 exponent = some (zero negative) := by
  simp [ofDecimal?]

/-! ### Reading a double's own value back -/

theorem divNearest_mul (n : Nat) {den : Nat} (positive : 0 < den) :
    divNearest (n * den) den = n := by
  simp [divNearest, Nat.mul_mod_left, Nat.mul_div_cancel n positive, positive]

/-- The shift chosen for a double's own magnitude is the double's shift. -/
theorem shiftFor_magnitude (x : Binary64) : shiftFor x.magnitude = x.shift := by
  unfold shiftFor magnitude
  rcases x.normal with none | normal
  · have below : x.significand.log2 ≤ 52 := by
      by_cases empty : x.significand = 0
      · simp [empty]
      · exact Nat.le_of_lt_succ ((Nat.log2_lt empty).2 x.significand_lt)
    simp [none]
    omega
  · have positive : x.significand ≠ 0 := by
      have := Nat.two_pow_pos 52
      omega
    have exact_log : (x.significand * 2 ^ x.shift).log2 = 52 + x.shift := by
      rw [Nat.log2_eq_iff (Nat.mul_ne_zero positive (Nat.ne_of_gt (Nat.two_pow_pos _)))]
      constructor
      · rw [Nat.pow_add]
        exact Nat.mul_le_mul_right _ normal
      · have : 2 ^ (52 + x.shift + 1) = 2 ^ (53 : Nat) * 2 ^ x.shift := by
          rw [← Nat.pow_add]
          congr 1
          omega
        rw [this]
        exact Nat.mul_lt_mul_of_pos_right x.significand_lt (Nat.two_pow_pos _)
    omega

/-- **Rounding a double's exact value gives that double.** -/
theorem ofRatio?_magnitude (x : Binary64) {den : Nat} (positive : 0 < den) :
    ofRatio? x.negative (x.magnitude * den) den = some x := by
  have scaled : divNearest (x.magnitude * den) (den * 2 ^ x.shift) = x.significand := by
    have := divNearest_mul x.significand (Nat.mul_pos positive (Nat.two_pow_pos x.shift))
    rw [← this]
    congr 1
    rw [magnitude]
    rw [Nat.mul_assoc, Nat.mul_comm (2 ^ x.shift) den]
  rw [ofRatio?]
  simp only [Nat.mul_div_cancel _ positive, shiftFor_magnitude, scaled, x.significand_lt,
    x.shift_le, dite_true]

/-- The exact value of a double as a whole number of `10 ^ (-places)`. -/
def exactDigits (x : Binary64) : Nat := x.magnitude * 5 ^ places

/-- The exact decimal expansion of a double reads back as that double. -/
theorem ofDecimal?_exactDigits (x : Binary64) (nonzero : x.significand ≠ 0) :
    ofDecimal? x.negative x.exactDigits (-places) = some x := by
  have magnitude_pos : 0 < x.magnitude :=
    Nat.mul_pos (Nat.pos_of_ne_zero nonzero) (Nat.two_pow_pos _)
  have digits_ne : x.exactDigits ≠ 0 :=
    Nat.ne_of_gt (Nat.mul_pos magnitude_pos (Nat.pow_pos (by decide)))
  have large : 2 * places ≤ x.exactDigits.log2 := by
    rw [Nat.le_log2 digits_ne, Nat.pow_mul]
    exact Nat.le_trans (Nat.pow_le_pow_left (by decide) places)
      (Nat.le_mul_of_pos_left (5 ^ places) magnitude_pos)
  have ratio : x.exactDigits * 10 ^ (-(places : Int)).toNat * 2 ^ places
      = x.magnitude * 10 ^ places := by
    rw [Int.toNat_neg_natCast, Nat.pow_zero, Nat.mul_one, exactDigits, Nat.mul_assoc,
      ← Nat.mul_pow]
  have den : (-(-(places : Int))).toNat = places := by omega
  have guarded : ¬ (-(places : Int) + 400 + x.exactDigits.log2 < 0) := by
    simp only [places] at large ⊢
    omega
  rw [ofDecimal?]
  rw [if_neg digits_ne, if_neg (by omega), if_neg guarded, ratio, den]
  exact ofRatio?_magnitude x (Nat.pow_pos (by decide))

end Binary64

end RouterCall
