import RouterCall.Amount
import Mathlib.Data.List.Basic
import Mathlib.Data.List.Induction
import Mathlib.Data.Nat.Digits.Defs

/-!
# What amounts are written as

The grammar of amounts, said without the reader: which texts are numerals and of which number, which
JSON values encode an amount, and which of the many numerals of a number is the canonical one. The
reader and the writer of `Amount` are then measured against it.

The value of a row of digits is `Nat.ofDigits` of the digits, the least significant first. The
reader folds from the other end, so the two meet in `positional_eq_foldl` and nowhere else.

## Main definitions

* `Amount.Denotes`: a text is a numeral of a number
* `Amount.Encodes`: a JSON value encodes a number
* `Amount.IsCanonical`: a text is the decimal numeral of a number without leading zeros

## Main results

* `Amount.parse_eq_ok_iff`, `Amount.ofJson?_eq_some_iff`: the readers accept exactly the grammar
* `Amount.isCanonical_iff`: the writer writes the one canonical numeral
* `Amount.ofJson?_toJson`: an amount written is read back
-/

namespace RouterCall

namespace Amount

/-! ### Rows of digits -/

/-- The number that a row of digits is in a base, the most significant digit first. -/
def positional (base : ℕ) (digits : List Char) : ℕ :=
  Nat.ofDigits base (digits.map Hex.digitValue).reverse

theorem positional_eq_foldl (base : ℕ) (digits : List Char) :
    positional base digits = digits.foldl (fun value c => base * value + Hex.digitValue c) 0 := by
  rw [positional, Nat.ofDigits_eq_foldr, List.foldr_reverse, List.foldl_map]
  congr 1
  funext value c
  exact Nat.add_comm _ _

theorem value_eq_positional (digits : List Char) : Hex.value digits = positional 16 digits := by
  rw [positional_eq_foldl, Hex.value]

/-- A decimal digit is worth what it is worth among the hexadecimal ones. -/
theorem digitValue_of_isDigit {c : Char} (h : c.isDigit = true) :
    Hex.digitValue c = c.toNat - '0'.toNat := by
  have atMost : c ≤ '9' := by
    simp only [Char.isDigit, Bool.and_eq_true, decide_eq_true_eq] at h
    exact h.2
  rw [Hex.digitValue, if_pos atMost]

theorem ofDigitChars_eq_positional {digits : List Char} (h : ∀ c ∈ digits, c.isDigit = true) :
    Nat.ofDigitChars 10 digits 0 = positional 10 digits := by
  rw [positional_eq_foldl, Nat.ofDigitChars_eq_foldl]
  refine List.foldl_ext _ _ _ fun value c mem => ?_
  rw [digitValue_of_isDigit (h c mem)]

/-! ### Numerals -/

/-- A text of decimal digits, at least one. -/
structure IsDecimal (text : String) (n : ℕ) : Prop where
  nonempty : text.toList ≠ []
  each : ∀ c ∈ text.toList, c.isDigit = true
  value : n = positional 10 text.toList

/-- The text `0x` and hexadecimal digits of either case behind it, at least one. -/
structure IsHex (text : String) (n : ℕ) (digits : List Char) : Prop where
  marked : text.toList = '0' :: 'x' :: digits
  nonempty : digits ≠ []
  each : ∀ c ∈ digits, Hex.isDigit c = true
  value : n = positional 16 digits

/-- A text is a numeral of a number: decimal or hexadecimal, of any length. -/
def Denotes (text : String) (n : ℕ) : Prop := IsDecimal text n ∨ ∃ digits, IsHex text n digits

/-- **The reader of numerals accepts exactly the numerals.** -/
theorem parse_eq_ok_iff {text : String} {amount : Amount} :
    parse text = .ok amount ↔ Denotes text amount.value := by
  rw [parse.eq_def]
  split
  · next empty =>
    refine ⟨nofun, ?_⟩
    rintro (decimal | ⟨digits, hex⟩)
    · exact absurd empty decimal.nonempty
    · rw [hex.marked] at empty
      cases empty
  · next digits marked =>
    constructor
    · intro accepted
      split at accepted
      · next good =>
        cases accepted
        exact .inr ⟨digits, marked, good.1, by simpa using good.2, value_eq_positional digits⟩
      · cases accepted
    · rintro (decimal | ⟨digits', hex⟩)
      · -- the `x` is no decimal digit
        have := decimal.each 'x' (by simp [marked])
        cases this
      · obtain rfl : digits = digits' := by simpa [marked] using hex.marked
        rw [if_pos ⟨hex.nonempty, by simpa using hex.each⟩, value_eq_positional, ← hex.value]
  · next nonempty unmarked =>
    constructor
    · intro accepted
      split at accepted
      · next good =>
        cases accepted
        have digits : ∀ c ∈ text.toList, c.isDigit = true := by simpa using good
        exact .inl ⟨nonempty, digits, ofDigitChars_eq_positional digits⟩
      · cases accepted
    · rintro (decimal | ⟨digits, hex⟩)
      · rw [if_pos (by simpa using decimal.each), ofDigitChars_eq_positional decimal.each,
          ← decimal.value]
      · exact absurd hex.marked (unmarked digits)

/-! ### The canonical numeral -/

/-- The decimal numeral of a number that has no leading zero, the number zero apart. -/
structure IsCanonical (text : String) (n : ℕ) : Prop extends IsDecimal text n where
  leading : text.toList.head? = some '0' → text.toList = ['0']

/-- A decimal digit is one of the ten. -/
theorem exists_digitChar {c : Char} (h : c.isDigit = true) : ∃ k < 10, c = Nat.digitChar k := by
  simp only [Char.isDigit, Bool.and_eq_true, decide_eq_true_eq] at h
  have atLeast := UInt32.le_iff_toNat_le.mp h.1
  have atMost := UInt32.le_iff_toNat_le.mp h.2
  simp only [Char.reduceVal, UInt32.reduceToNat] at atLeast atMost
  have small : c.toNat - 48 < 10 := by
    show c.val.toNat - 48 < 10
    omega
  refine ⟨c.toNat - 48, small, Char.toNat_inj.mp ?_⟩
  rw [Nat.toNat_digitChar_of_lt_ten small]
  show c.val.toNat = 48 + (c.val.toNat - 48)
  omega

/-- Writing out the value of digits gives the digits, unless a zero led them. -/
theorem toDigits_ofDigitChars {digits : List Char} (nonempty : digits ≠ [])
    (each : ∀ c ∈ digits, c.isDigit = true) (leading : digits.head? = some '0' → digits = ['0']) :
    Nat.toDigits 10 (Nat.ofDigitChars 10 digits 0) = digits := by
  induction digits using List.reverseRecOn with
  | nil => exact absurd rfl nonempty
  | append_singleton front c ih =>
    obtain ⟨k, small, rfl⟩ := exists_digitChar (each c (by simp))
    rw [Nat.ofDigitChars_append, Nat.ofDigitChars_cons_digitChar_of_lt_ten small,
      Nat.ofDigitChars_nil]
    rcases front with _ | ⟨d, front⟩
    · simpa using Nat.toDigits_of_lt_base small
    · have unled : d ≠ '0' := by
        rintro rfl
        simpa using leading rfl
      have whole := ih (by simp) (fun c mem => each c (List.mem_append_left _ mem))
        (fun led => absurd (by simpa using led) unled)
      -- a front that is worth nothing would be written `0`
      have positive : 0 < Nat.ofDigitChars 10 (d :: front) 0 := by
        refine Nat.pos_of_ne_zero fun none => ?_
        rw [none, Nat.toDigits_zero] at whole
        exact unled (List.cons.inj whole).1.symm
      rw [← Nat.toDigits_append_toDigits (by decide) positive small, whole,
        Nat.toDigits_of_lt_base small]

/-- Only zero is written with a zero in front. -/
theorem head?_toDigits {n : ℕ} (led : (Nat.toDigits 10 n).head? = some '0') : n = 0 := by
  induction n using Nat.strongRecOn with
  | ind n ih =>
    rcases Nat.lt_or_ge n 10 with small | large
    · rw [Nat.toDigits_of_lt_base small] at led
      have same : (Nat.digitChar n).toNat = 48 := by
        rw [Option.some.inj led]
        rfl
      rw [Nat.toNat_digitChar_of_lt_ten small] at same
      omega
    · rw [Nat.toDigits_of_base_le (by decide) large, List.head?_append_of_ne_nil _ (by simp)] at led
      have := ih (n / 10) (by omega) led
      omega

/-- **An amount is written as the one canonical numeral it has.** -/
theorem isCanonical_iff {text : String} {amount : Amount} :
    IsCanonical text amount.value ↔ text = amount.decimal := by
  constructor
  · intro canonical
    have written := toDigits_ofDigitChars canonical.nonempty canonical.each canonical.leading
    rw [ofDigitChars_eq_positional canonical.each, ← canonical.value] at written
    rw [decimal, Nat.toString_eq_ofList_toDigits, written, String.ofList_toList]
  · rintro rfl
    have shape : amount.decimal.toList = Nat.toDigits 10 amount.value := by simp [decimal]
    have digits : ∀ c ∈ amount.decimal.toList, c.isDigit = true := by
      rw [shape]
      exact fun c => Nat.isDigit_of_mem_toDigits (by decide) (by decide)
    refine ⟨⟨by simp [shape], digits, ?_⟩, fun led => ?_⟩
    · rw [← ofDigitChars_eq_positional digits, shape, Nat.ofDigitChars_ten_toDigits]
    · rw [shape] at led ⊢
      rw [head?_toDigits led, Nat.toDigits_zero]

theorem isCanonical_decimal (amount : Amount) : IsCanonical amount.decimal amount.value :=
  isCanonical_iff.mpr rfl

theorem IsCanonical.unique {text text' : String} {n : ℕ} (h : IsCanonical text n)
    (h' : IsCanonical text' n) : text = text' :=
  ((@isCanonical_iff text ⟨n⟩).mp h).trans ((@isCanonical_iff text' ⟨n⟩).mp h').symm

theorem parse_decimal (amount : Amount) : parse amount.decimal = .ok amount :=
  parse_eq_ok_iff.mpr (.inl (isCanonical_decimal amount).toIsDecimal)

/-! ### Encodings in JSON -/

/-- A JSON value encodes a number: as a string that is a numeral, or as an object whose `type` is
`BigNumber` and whose `hex` is a numeral that begins with `0x`. Its other members do not matter. -/
inductive Encodes : Json → ℕ → Prop
  | numeral {text : String} {n : ℕ} (denotes : Denotes text n) : Encodes (.string text) n
  | bigNumber {members : List (String × Json)} {text : String} {n : ℕ}
      (tagged : members.lookup "type" = some (.string "BigNumber"))
      (found : members.lookup "hex" = some (.string text))
      (marked : HexString.begins text = true) (denotes : Denotes text n) :
      Encodes (.object members) n

theorem toOption_parse_eq_some_iff {text : String} {amount : Amount} :
    (parse text).toOption = some amount ↔ Denotes text amount.value := by
  rw [← parse_eq_ok_iff]
  cases parse text <;> simp [Except.toOption]

/-- **The reader of amounts accepts exactly the encodings.** -/
theorem ofJson?_eq_some_iff {value : Json} {amount : Amount} :
    ofJson? value = some amount ↔ Encodes value amount.value := by
  constructor
  · intro accepted
    cases value with
    | string text => exact .numeral (toOption_parse_eq_some_iff.mp accepted)
    | object members =>
      simp only [ofJson?, Option.bind_eq_bind, Option.bind_eq_some_iff, Option.guard_eq_some',
        Json.asString?_eq_some_iff, toOption_parse_eq_some_iff] at accepted
      obtain ⟨-, ⟨_, tagged, rfl⟩, text, ⟨_, found, rfl⟩, -, marked, denotes⟩ := accepted
      exact .bigNumber tagged found marked denotes
    | null => cases accepted
    | bool _ => cases accepted
    | number _ => cases accepted
    | array _ => cases accepted
  · intro encodes
    generalize same : amount.value = n at encodes
    cases encodes with
    | numeral denotes => exact toOption_parse_eq_some_iff.mpr (same ▸ denotes)
    | bigNumber tagged found marked denotes =>
      have parsed := toOption_parse_eq_some_iff.mpr (same ▸ denotes)
      simp [ofJson?, tagged, found, marked, parsed, Json.asString?]

/-- A value encodes at most one number. -/
theorem Encodes.unique {value : Json} {n m : ℕ} (h : Encodes value n) (h' : Encodes value m) :
    n = m := by
  have found := (@ofJson?_eq_some_iff value ⟨n⟩).mpr h
  have found' := (@ofJson?_eq_some_iff value ⟨m⟩).mpr h'
  exact congrArg Amount.value (Option.some.inj (found.symm.trans found'))

/-- An amount written is read back. -/
theorem ofJson?_toJson (amount : Amount) : ofJson? amount.toJson = some amount :=
  ofJson?_eq_some_iff.mpr (.numeral (parse_eq_ok_iff.mp (parse_decimal amount)))

end Amount

end RouterCall
