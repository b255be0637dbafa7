import RouterCall.Proofs.Amount
import Mathlib.Data.List.Forall2

/-!
# Numerals and what they are not

A numeral is a row of digits in base ten, or `0x` and a row of digits in base sixteen. The digits
are those that core writes, `Nat.digitChar`, with letters of either case, and a row of them has the
value that `Nat.ofDigits` gives it. Nothing here bounds the length of a row or asks what stands in
front, so leading zeros are numerals like all others, and signs, separators and blanks are not.

A text that is no numeral is refused for one of three reasons, and its beginning decides which. The
empty text is empty. A text that begins with `0x` was meant in base sixteen, so what is wrong with
it are its digits, also when there are none. Every other text should have been decimal.

The two bases share all lemmas about rows. They differ in the test on a character, and each test is
compared with the digits of its base once, in `isDigit_ten_iff` and `isDigit_sixteen_iff`.

## Main definitions

* `Amount.IsDigit`, `Amount.IsRow`: digits of a base, and the value of a row of them
* `Amount.IsHexadecimal`, `Amount.IsNumeral`: the texts that denote a number
* `Amount.hexadecimal`, `Amount.bigNumber`: a number in base sixteen, and as an object

## Main results

* `Amount.isRow_toDigits`: what core writes in a base is a row of that base
* `Amount.denotes_iff`: the numerals that are accepted
* `Amount.parse_cases`: the four outcomes of a text
* `Amount.parse_iff_numeral_and_reads_back`: which texts and values are which amount, and why the
  others are none
-/

namespace RouterCall

namespace Amount

/-! ### Rows of digits -/

/-- A character is a digit of a base and worth a number. Letters may be of either case. -/
def IsDigit (base : ℕ) (c : Char) (worth : ℕ) : Prop :=
  worth < base ∧ (c = worth.digitChar ∨ c = worth.digitChar.toUpper)

/-- A row of digits, at least one and the most significant first, has a value. -/
structure IsRow (base : ℕ) (digits : List Char) (n : ℕ) : Prop where
  nonempty : digits ≠ []
  value : ∃ worths, List.Forall₂ (IsDigit base) digits worths ∧ n = Nat.ofDigits base worths.reverse

theorem isRow_singleton {base worth : ℕ} {c : Char} (digit : IsDigit base c worth) :
    IsRow base [c] worth :=
  ⟨List.cons_ne_nil _ _, [worth], .cons digit .nil, Nat.ofDigits_singleton.symm⟩

/-- A further digit moves the value one place up. -/
theorem IsRow.concat {base n worth : ℕ} {digits : List Char} {c : Char} (row : IsRow base digits n)
    (digit : IsDigit base c worth) : IsRow base (digits ++ [c]) (worth + base * n) := by
  obtain ⟨worths, each, rfl⟩ := row.value
  refine ⟨by simp, worths ++ [worth], List.rel_append each (.cons digit .nil), ?_⟩
  rw [List.reverse_append, List.reverse_singleton, List.singleton_append, Nat.ofDigits_cons]

/-- **What is written in a base is a row of that base**, with the value that was written. -/
theorem isRow_toDigits {base : ℕ} (large : 1 < base) (n : ℕ) :
    IsRow base (Nat.toDigits base n) n := by
  induction n using Nat.strongRecOn with
  | ind n ih =>
    rcases Nat.lt_or_ge n base with small | big
    · rw [Nat.toDigits_of_lt_base small]
      exact isRow_singleton ⟨small, .inl rfl⟩
    · have front := ih (n / base) (Nat.div_lt_self (by omega) large)
      have last : IsDigit base (n % base).digitChar (n % base) :=
        ⟨Nat.mod_lt n (by omega), .inl rfl⟩
      rw [Nat.toDigits_of_base_le large big]
      simpa only [Nat.mod_add_div] using front.concat last

/-- Where a test on characters picks the digits of a base, the rows of the base are the texts of
characters that pass it, and their value is the positional one. -/
theorem isRow_iff {base : ℕ} {test : Char → Bool}
    (digit : ∀ c worth, IsDigit base c worth ↔ test c = true ∧ Hex.digitValue c = worth)
    {digits : List Char} {n : ℕ} :
    IsRow base digits n ↔
      digits ≠ [] ∧ (∀ c ∈ digits, test c = true) ∧ n = positional base digits := by
  have same : IsDigit base = fun c worth => test c = true ∧ Hex.digitValue c = worth := by
    funext c worth
    exact propext (digit c worth)
  have worths_iff (worths : List ℕ) : List.Forall₂ (IsDigit base) digits worths ↔
      (∀ c ∈ digits, test c = true) ∧ digits.map Hex.digitValue = worths := by
    rw [same, List.forall₂_and_left, ← List.forall₂_map_left_iff, List.forall₂_eq_eq_eq]
  constructor
  · rintro ⟨nonempty, worths, digitwise, rfl⟩
    obtain ⟨each, rfl⟩ := (worths_iff worths).mp digitwise
    exact ⟨nonempty, each, rfl⟩
  · rintro ⟨nonempty, each, rfl⟩
    exact ⟨nonempty, _, (worths_iff _).mpr ⟨each, rfl⟩, rfl⟩

/-! ### The two bases -/

instance (base : ℕ) (c : Char) (worth : ℕ) : Decidable (IsDigit base c worth) :=
  inferInstanceAs (Decidable (_ ∧ _))

theorem hexDigit_of_isDigit {c : Char} {worth : ℕ} (h : IsDigit 16 c worth) :
    Hex.isDigit c = true ∧ Hex.digitValue c = worth := by
  obtain ⟨small, shape⟩ := h
  have table : ∀ worth < 16,
      (Hex.isDigit worth.digitChar = true ∧ Hex.digitValue worth.digitChar = worth) ∧
        Hex.isDigit worth.digitChar.toUpper = true ∧
        Hex.digitValue worth.digitChar.toUpper = worth := by decide
  obtain rfl | rfl := shape
  · exact (table worth small).1
  · exact (table worth small).2

theorem toNat_lt_of_isDigit {c : Char} (h : Hex.isDigit c = true) : c.toNat < 103 := by
  simp only [Hex.isDigit, Bool.or_eq_true, Bool.and_eq_true, decide_eq_true_eq, Char.le_def,
    UInt32.le_iff_toNat_le, Char.reduceVal, UInt32.reduceToNat] at h
  show c.val.toNat < 103
  omega

/-- The digits of base sixteen are the hexadecimal digits, and are worth what they are. -/
theorem isDigit_sixteen_iff (c : Char) (worth : ℕ) :
    IsDigit 16 c worth ↔ Hex.isDigit c = true ∧ Hex.digitValue c = worth := by
  refine ⟨hexDigit_of_isDigit, ?_⟩
  rintro ⟨digit, rfl⟩
  -- a digit has one of the codes below that of `g`
  have table : ∀ code < 103, Hex.isDigit (Char.ofNat code) = true →
      IsDigit 16 (Char.ofNat code) (Hex.digitValue (Char.ofNat code)) := by decide
  have found := table c.toNat (toNat_lt_of_isDigit digit)
  rw [Char.ofNat_toNat] at found
  exact found digit

/-- The digits of base ten are the decimal digits, and are worth what they are. -/
theorem isDigit_ten_iff (c : Char) (worth : ℕ) :
    IsDigit 10 c worth ↔ c.isDigit = true ∧ Hex.digitValue c = worth := by
  constructor
  · rintro ⟨small, shape⟩
    have upper : ∀ worth < 10, worth.digitChar.toUpper = worth.digitChar := by decide
    have value := hexDigit_of_isDigit ⟨small.trans (by decide), shape⟩
    rw [upper worth small, or_self] at shape
    exact ⟨by rw [shape, Nat.isDigit_digitChar, decide_eq_true small], value.2⟩
  · rintro ⟨digit, rfl⟩
    obtain ⟨worth, small, rfl⟩ := exists_digitChar digit
    have digit : IsDigit 16 worth.digitChar worth := ⟨small.trans (by decide), .inl rfl⟩
    rw [(hexDigit_of_isDigit digit).2]
    exact ⟨small, .inl rfl⟩

/-! ### Numerals -/

/-- A text is `0x` and a row of hexadecimal digits with a value. -/
def IsHexadecimal (text : String) (n : ℕ) : Prop :=
  ∃ digits, text.toList = '0' :: 'x' :: digits ∧ IsRow 16 digits n

/-- A text is a numeral of a number: a row of decimal digits, or `0x` and one of hexadecimal
digits. -/
def IsNumeral (text : String) (n : ℕ) : Prop := IsRow 10 text.toList n ∨ IsHexadecimal text n

theorem isDecimal_iff {text : String} {n : ℕ} : IsDecimal text n ↔ IsRow 10 text.toList n := by
  rw [isRow_iff isDigit_ten_iff]
  exact ⟨fun ⟨nonempty, each, value⟩ => ⟨nonempty, each, value⟩,
    fun ⟨nonempty, each, value⟩ => ⟨nonempty, each, value⟩⟩

theorem exists_isHex_iff {text : String} {n : ℕ} :
    (∃ digits, IsHex text n digits) ↔ IsHexadecimal text n := by
  simp only [IsHexadecimal, isRow_iff isDigit_sixteen_iff]
  exact exists_congr fun digits =>
    ⟨fun ⟨marked, nonempty, each, value⟩ => ⟨marked, nonempty, each, value⟩,
      fun ⟨marked, nonempty, each, value⟩ => ⟨marked, nonempty, each, value⟩⟩

/-- **The numerals that are accepted are the numerals.** -/
theorem denotes_iff {text : String} {n : ℕ} : Denotes text n ↔ IsNumeral text n := by
  rw [Denotes, IsNumeral, isDecimal_iff, exists_isHex_iff]

/-! ### Texts that are no numerals -/

/-- What stands behind `0x` is not a row of hexadecimal digits: nothing, or something else as well.
-/
def IsMalformed (digits : List Char) : Prop :=
  digits = [] ∨ ∃ c ∈ digits, ∀ worth, ¬ IsDigit 16 c worth

theorem isMalformed_iff {digits : List Char} :
    IsMalformed digits ↔ ¬ (digits ≠ [] ∧ digits.all Hex.isDigit = true) := by
  have noDigit (c : Char) : (∀ worth, ¬ IsDigit 16 c worth) ↔ Hex.isDigit c ≠ true := by
    simp [isDigit_sixteen_iff]
  simp only [IsMalformed, noDigit, List.all_eq_true, not_and_or, ne_eq, not_not, not_forall,
    exists_prop]

/-- A text that begins with `0x` is not decimal, since the `x` is no decimal digit. -/
theorem isHexadecimal_of_marked {text : String} {digits : List Char} {n : ℕ}
    (marked : text.toList = '0' :: 'x' :: digits) (numeral : IsNumeral text n) :
    IsHexadecimal text n := by
  obtain decimal | hex := numeral
  · have digit := (isDecimal_iff.mpr decimal).each 'x' (by simp [marked])
    cases digit
  · exact hex

theorem not_isNumeral_of_isMalformed {text : String} {digits : List Char}
    (marked : text.toList = '0' :: 'x' :: digits) (malformed : IsMalformed digits) (n : ℕ) :
    ¬ IsNumeral text n := by
  intro numeral
  obtain ⟨digits', hex⟩ := exists_isHex_iff.mpr (isHexadecimal_of_marked marked numeral)
  obtain rfl : digits = digits' := by simpa [marked] using hex.marked
  exact isMalformed_iff.mp malformed ⟨hex.nonempty, by simpa using hex.each⟩

/-- **The outcomes of a text.** It is empty, it is a numeral, it begins with `0x` and is none, or it
does not and is none. -/
theorem parse_cases (text : String) :
    (text = "" ∧ parse text = .error .empty) ∨
    (∃ n, IsNumeral text n ∧ parse text = .ok ⟨n⟩) ∨
    (∃ digits, text.toList = '0' :: 'x' :: digits ∧ IsMalformed digits ∧
      parse text = .error (.invalidHex text)) ∨
    (text ≠ "" ∧ (∀ digits, text.toList ≠ '0' :: 'x' :: digits) ∧ (∀ n, ¬ IsNumeral text n) ∧
      parse text = .error (.notAnInteger text)) := by
  cases outcome : parse text with
  | ok amount =>
    exact .inr (.inl ⟨amount.value, denotes_iff.mp (parse_eq_ok_iff.mp outcome), rfl⟩)
  | error e =>
    have refused (n : ℕ) : ¬ IsNumeral text n := by
      intro numeral
      rw [(@parse_eq_ok_iff text ⟨n⟩).mpr (denotes_iff.mpr numeral)] at outcome
      cases outcome
    rw [parse.eq_def] at outcome
    split at outcome
    · next empty =>
      cases outcome
      exact .inl ⟨String.toList_eq_nil_iff.mp empty, rfl⟩
    · next digits marked =>
      split at outcome
      · cases outcome
      · next malformed =>
        cases outcome
        exact .inr (.inr (.inl ⟨digits, marked, isMalformed_iff.mpr malformed, rfl⟩))
    · next nonempty unmarked =>
      split at outcome
      · cases outcome
      · cases outcome
        refine .inr (.inr (.inr ⟨?_, unmarked, refused, rfl⟩))
        rintro rfl
        exact nonempty rfl

variable {text shown : String}

theorem parse_eq_empty_iff : parse text = .error .empty ↔ text = "" := by
  constructor
  · intro h
    obtain ⟨empty, -⟩ | ⟨n, -, other⟩ | ⟨digits, -, -, other⟩ | ⟨-, -, -, other⟩ := parse_cases text
    · exact empty
    all_goals cases h.symm.trans other
  · rintro rfl
    rfl

theorem parse_eq_invalidHex_iff :
    parse text = .error (.invalidHex shown) ↔
      shown = text ∧ ∃ digits, text.toList = '0' :: 'x' :: digits ∧ IsMalformed digits := by
  obtain ⟨rfl, outcome⟩ | ⟨n, numeral, outcome⟩ | ⟨digits, marked, malformed, outcome⟩ |
    ⟨-, unmarked, -, outcome⟩ := parse_cases text
  · simp [outcome]
  · rw [outcome]
    refine ⟨nofun, ?_⟩
    rintro ⟨-, digits, marked, malformed⟩
    exact absurd numeral (not_isNumeral_of_isMalformed marked malformed n)
  · rw [outcome]
    constructor
    · rintro ⟨⟩
      exact ⟨rfl, digits, marked, malformed⟩
    · rintro ⟨rfl, -⟩
      rfl
  · rw [outcome]
    refine ⟨nofun, ?_⟩
    rintro ⟨-, digits, marked, -⟩
    exact absurd marked (unmarked digits)

theorem parse_eq_notAnInteger_iff :
    parse text = .error (.notAnInteger shown) ↔ shown = text ∧ text ≠ "" ∧
      (∀ digits, text.toList ≠ '0' :: 'x' :: digits) ∧ ∀ n, ¬ IsNumeral text n := by
  obtain ⟨rfl, outcome⟩ | ⟨n, numeral, outcome⟩ | ⟨digits, marked, malformed, outcome⟩ |
    ⟨nonempty, unmarked, refused, outcome⟩ := parse_cases text
  · simp [outcome]
  · rw [outcome]
    refine ⟨nofun, ?_⟩
    rintro ⟨-, -, -, refused⟩
    exact absurd numeral (refused n)
  · rw [outcome]
    refine ⟨nofun, ?_⟩
    rintro ⟨-, -, unmarked, -⟩
    exact absurd marked (unmarked digits)
  · rw [outcome]
    constructor
    · rintro ⟨⟩
      exact ⟨rfl, nonempty, unmarked, refused⟩
    · rintro ⟨rfl, -⟩
      rfl

/-! ### Encodings -/

theorem begins_iff : HexString.begins text = true ↔ ∃ rest, text.toList = '0' :: 'x' :: rest := by
  rw [HexString.begins, List.isPrefixOf_iff_prefix]
  exact exists_congr fun rest => eq_comm

/-- A JSON value encodes a number as a numeral, or in an object whose `type` is `BigNumber` and
whose `hex` is a hexadecimal numeral. -/
theorem encodes_iff {value : Json} {n : ℕ} :
    Encodes value n ↔ (∃ text, value = .string text ∧ IsNumeral text n) ∨
      ∃ members text, value = .object members ∧
        members.lookup "type" = some (.string "BigNumber") ∧
        members.lookup "hex" = some (.string text) ∧ IsHexadecimal text n := by
  constructor
  · intro encodes
    cases encodes with
    | numeral denotes => exact .inl ⟨_, rfl, denotes_iff.mp denotes⟩
    | @bigNumber members text _ tagged found marked denotes =>
      obtain ⟨rest, marked⟩ := begins_iff.mp marked
      have hex := isHexadecimal_of_marked marked (denotes_iff.mp denotes)
      exact .inr ⟨members, text, rfl, tagged, found, hex⟩
  · rintro (⟨text, rfl, numeral⟩ | ⟨members, text, rfl, tagged, found, hex⟩)
    · exact .numeral (denotes_iff.mpr numeral)
    · have denotes := denotes_iff.mpr (.inr hex)
      obtain ⟨digits, marked, -⟩ := hex
      exact .bigNumber tagged found (begins_iff.mpr ⟨digits, marked⟩) denotes

/-! ### Amounts written out -/

/-- The numeral of an amount in base sixteen. -/
def hexadecimal (amount : Amount) : String :=
  String.ofList ('0' :: 'x' :: Nat.toDigits 16 amount.value)

/-- An amount as an object. -/
def bigNumber (amount : Amount) : Json :=
  .object [("type", .string "BigNumber"), ("hex", .string amount.hexadecimal)]

theorem isHexadecimal_hexadecimal (amount : Amount) :
    IsHexadecimal amount.hexadecimal amount.value :=
  ⟨_, String.toList_ofList, isRow_toDigits (by decide) amount.value⟩

theorem parse_hexadecimal (amount : Amount) : parse amount.hexadecimal = .ok amount :=
  parse_eq_ok_iff.mpr (denotes_iff.mpr (.inr (isHexadecimal_hexadecimal amount)))

/-- An amount is read back from each of its encodings. -/
theorem ofJson?_written (amount : Amount) :
    ofJson? (.string amount.decimal) = some amount ∧
      ofJson? (.string amount.hexadecimal) = some amount ∧
      ofJson? amount.bigNumber = some amount := by
  have hex := isHexadecimal_hexadecimal amount
  refine ⟨ofJson?_toJson amount, ofJson?_eq_some_iff.mpr (encodes_iff.mpr (.inl ?_)),
    ofJson?_eq_some_iff.mpr (encodes_iff.mpr (.inr ?_))⟩
  · exact ⟨_, rfl, .inr hex⟩
  · exact ⟨_, _, rfl, rfl, rfl, hex⟩

/-- **Which texts and values are which amount, and why the others are none.** A text is an amount
exactly when it is a numeral, whose value is the positional one at any length. It is refused as
empty when it is empty, for its digits when it begins with `0x` and no row of hexadecimal digits
follows, and as no integer in every other case. A value is an amount when it is a numeral, or an
object that is tagged as a number and holds a hexadecimal numeral. An amount is written in decimal
digits without leading zeros, and it is read back from that and from both other encodings. -/
theorem parse_iff_numeral_and_reads_back :
    (∀ text amount, parse text = .ok amount ↔ IsNumeral text amount.value) ∧
    (∀ text, parse text = .error .empty ↔ text = "") ∧
    (∀ text shown, parse text = .error (.invalidHex shown) ↔
      shown = text ∧ ∃ digits, text.toList = '0' :: 'x' :: digits ∧ IsMalformed digits) ∧
    (∀ text shown, parse text = .error (.notAnInteger shown) ↔ shown = text ∧ text ≠ "" ∧
      (∀ digits, text.toList ≠ '0' :: 'x' :: digits) ∧ ∀ n, ¬ IsNumeral text n) ∧
    (∀ value amount, ofJson? value = some amount ↔
      (∃ text, value = .string text ∧ IsNumeral text amount.value) ∨
      ∃ members text, value = .object members ∧
        members.lookup "type" = some (.string "BigNumber") ∧
        members.lookup "hex" = some (.string text) ∧ IsHexadecimal text amount.value) ∧
    (∀ amount, IsRow 10 amount.decimal.toList amount.value ∧
      (amount.decimal.toList.head? = some '0' → amount.decimal = "0") ∧
      parse amount.decimal = .ok amount ∧ parse amount.hexadecimal = .ok amount ∧
      ofJson? (.string amount.decimal) = some amount ∧
      ofJson? (.string amount.hexadecimal) = some amount ∧
      ofJson? amount.bigNumber = some amount) := by
  refine ⟨fun text amount => ?_, fun text => parse_eq_empty_iff,
    fun text shown => parse_eq_invalidHex_iff, fun text shown => parse_eq_notAnInteger_iff,
    fun value amount => ?_, fun amount => ?_⟩
  · rw [parse_eq_ok_iff, denotes_iff]
  · rw [ofJson?_eq_some_iff, encodes_iff]
  · have canonical := isCanonical_decimal amount
    refine ⟨isDecimal_iff.mp canonical.toIsDecimal, fun led => ?_, parse_decimal amount,
      parse_hexadecimal amount, ofJson?_written amount⟩
    exact String.toList_inj.mp (canonical.leading led)

theorem parse_iff_numeral_and_reads_back_samples :
    IsNumeral "0x00Ff" 255 ∧ (∀ n, ¬ IsNumeral "+1" n) ∧ (∀ n, ¬ IsNumeral "0X1" n) ∧
      IsMalformed ['1', '_', '0'] ∧ (⟨0⟩ : Amount).decimal = "0" ∧
      ofJson? (bigNumber ⟨255⟩) = some ⟨255⟩ := by
  obtain ⟨accepted, -, badDigits, noInteger, -, written⟩ := parse_iff_numeral_and_reads_back
  obtain ⟨-, digits, marked, malformed⟩ :=
    (badDigits "0x1_0" "0x1_0").mp (by decide)
  obtain rfl : digits = ['1', '_', '0'] := by simpa using marked.symm
  refine ⟨(accepted "0x00Ff" ⟨255⟩).mp (by decide), ?_, ?_, malformed, ?_, ?_⟩
  · exact ((noInteger "+1" "+1").mp (by decide)).2.2.2
  · exact ((noInteger "0X1" "0X1").mp (by decide)).2.2.2
  · exact (written ⟨0⟩).2.1 (by decide)
  · exact (written ⟨255⟩).2.2.2.2.2.2

end Amount

end RouterCall
