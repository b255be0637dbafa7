import RouterCall.Json.Printer
import RouterCall.Proofs.Amount
import Mathlib.Data.List.DropRight
import Mathlib.Data.List.TakeDrop

/-!
# Literals read back

The strings and numbers of a JSON text are literals, and each of them is written by a rule and read
by another. Here the two rules are shown to undo one another, literal by literal and whatever
follows in the text.

A string literal knows its own end. A number literal does not: it ends where the text cannot go on
with it, so reading one back needs to know that what follows is no digit, no point and no exponent
(`Numeral.Ends`). Nothing else is asked of what follows.

## Main definitions

* `Numeral.IsLiteral`: the parts of a number literal are as the grammar has them
* `Numeral.Ends`: a text that no number literal goes on with
* `Number.IsWritable`: a number that a JSON text can hold

## Main results

* `Document.scanText_quote`: a string literal is read as its text
* `Numeral.scan_chars`: a number literal is read as itself
* `Number.isLiteral_numeral`, `Number.ofNumeral?_numeral`: a number is written as a literal that
  denotes it
-/

namespace RouterCall

/-! ### String literals -/

namespace Document

/-- The escape of a control character, four digits behind `\u`, denotes its code. -/
theorem value?_control : ∀ n < 0x20,
    Hex.value? ['0', '0', Json.hexDigit (n / 16), Json.hexDigit (n % 16)] = some n := by
  decide

/-- A character is spelled by a letter behind a backslash, by its code, or by itself. -/
theorem escape_cases (c : Char) :
    (∃ letter, letter ≠ 'u' ∧ escaped? letter = some c ∧ Json.escape c = ['\\', letter]) ∨
    (c.toNat < 0x20 ∧ Json.escape c =
      ['\\', 'u', '0', '0', Json.hexDigit (c.toNat / 16), Json.hexDigit (c.toNat % 16)]) ∨
    (c ≠ '"' ∧ c ≠ '\\' ∧ 0x20 ≤ c.toNat ∧ Json.escape c = [c]) := by
  rw [Json.escape]
  split_ifs with quote backslash backspace formFeed lineFeed carriageReturn tab control
  · exact .inl ⟨'"', by decide, by rw [quote]; rfl, rfl⟩
  · exact .inl ⟨'\\', by decide, by rw [backslash]; rfl, rfl⟩
  · exact .inl ⟨'b', by decide, by rw [backspace]; rfl, rfl⟩
  · exact .inl ⟨'f', by decide, by rw [formFeed]; rfl, rfl⟩
  · exact .inl ⟨'n', by decide, by rw [lineFeed]; rfl, rfl⟩
  · exact .inl ⟨'r', by decide, by rw [carriageReturn]; rfl, rfl⟩
  · exact .inl ⟨'t', by decide, by rw [tab]; rfl, rfl⟩
  · exact .inr (.inl ⟨control, rfl⟩)
  · exact .inr (.inr ⟨quote, backslash, Nat.le_of_not_lt control, rfl⟩)

/-- Whichever way a character is spelled, the spelling is read as that character. -/
theorem scanUnits_escape (c : Char) (rest : List Char) :
    scanUnits (Json.escape c ++ rest) =
      (scanUnits rest).map fun (units, rest) => (.char c :: units, rest) := by
  have put : ∀ found : Option (List TextUnit × List Char),
      (do let (units, rest) ← found; return (TextUnit.char c :: units, rest)) =
        found.map fun (units, rest) => (.char c :: units, rest) := by
    intro found
    cases found <;> rfl
  obtain ⟨letter, short, denotes, spelled⟩ | ⟨control, spelled⟩ |
    ⟨notQuote, notBackslash, printable, spelled⟩ := escape_cases c
  · rw [spelled, ← put, List.cons_append, List.singleton_append, scanUnits, denotes]
    · rfl
    · exact fun _ _ _ _ _ same _ => short same
  · rw [spelled, ← put]
    show scanUnits ('\\' :: 'u' :: '0' :: '0' :: _ :: _ :: rest) = _
    have char : TextUnit.ofCode c.toNat = .char c := by
      rw [TextUnit.ofCode, if_neg (by omega), Char.ofNat_toNat]
    rw [scanUnits, value?_control c.toNat control]
    simp only [Option.bind_eq_bind, Option.bind_some, char]
  · rw [spelled, ← put, List.singleton_append, scanUnits.eq_def]
    split <;> simp_all

theorem scanUnits_flatMap_escape (cs rest : List Char) :
    scanUnits (cs.flatMap Json.escape ++ '"' :: rest) = some (cs.map .char, rest) := by
  induction cs with
  | nil => rfl
  | cons c cs ih =>
    rw [List.flatMap_cons, List.append_assoc, scanUnits_escape, ih]
    rfl

theorem spell_map_char (cs : List Char) : spell (cs.map .char) = some cs := by
  induction cs with
  | nil => rfl
  | cons c cs ih => simp [spell, ih]

/-- **A string literal is read as its text**, whatever follows it. -/
theorem scanText_quote (text : String) (rest : List Char) :
    scanText (text.toList.flatMap Json.escape ++ '"' :: rest) = some (some text, rest) := by
  simp [scanText, scanUnits_flatMap_escape, spell_map_char]

end Document

/-! ### Number literals -/

namespace Numeral

/-- A text that does not start with a digit. -/
def NoDigit (rest : List Char) : Prop := ∀ c ∈ rest.head?, c.isDigit = false

/-- A text that no literal goes on with. -/
def Ends (rest : List Char) : Prop :=
  ∀ c ∈ rest.head?, c.isDigit = false ∧ c ≠ '.' ∧ c ≠ 'e' ∧ c ≠ 'E'

theorem Ends.noDigit {rest : List Char} (h : Ends rest) : NoDigit rest :=
  fun c mem => (h c mem).1

/-- The parts of a number literal, as the grammar has them. -/
structure IsLiteral (n : Numeral) : Prop where
  nonempty : n.whole ≠ []
  leading : n.whole.head? = some '0' → n.whole = ['0']
  whole : ∀ c ∈ n.whole, c.isDigit = true
  fraction : ∀ c ∈ n.fraction, c.isDigit = true

theorem digits_append {ds rest : List Char} (each : ∀ c ∈ ds, c.isDigit = true)
    (stop : NoDigit rest) : digits (ds ++ rest) = (ds, rest) := by
  have taken : rest.takeWhile Char.isDigit = [] := by
    cases rest with
    | nil => rfl
    | cons c rest => simp [stop c rfl]
  have dropped : rest.dropWhile Char.isDigit = rest := by
    cases rest with
    | nil => rfl
    | cons c rest => simp [stop c rfl]
  rw [digits, List.span_eq_takeWhile_dropWhile, List.takeWhile_append_of_pos each,
    List.dropWhile_append_of_pos each, taken, dropped, List.append_nil]

theorem scanWhole_append {n : Numeral} (h : n.IsLiteral) {rest : List Char} (stop : NoDigit rest) :
    scanWhole (n.whole ++ rest) = some (n.whole, rest) := by
  by_cases zero : n.whole.head? = some '0'
  · rw [h.leading zero]
    rfl
  · rw [scanWhole.eq_def]
    split
    · next tail same =>
      cases found : n.whole with
      | nil => exact absurd found h.nonempty
      | cons c cs =>
        rw [found] at same zero
        cases same
        exact absurd rfl zero
    · rw [digits_append h.whole stop]
      cases found : n.whole with
      | nil => exact absurd found h.nonempty
      | cons c cs => rfl

theorem scanFraction_append {fraction rest : List Char}
    (each : ∀ c ∈ fraction, c.isDigit = true)
    (stop : ∀ c ∈ rest.head?, c.isDigit = false ∧ c ≠ '.') :
    scanFraction ((if fraction = [] then [] else '.' :: fraction) ++ rest) =
      some (fraction, rest) := by
  cases fraction with
  | nil =>
    rw [if_pos rfl, List.nil_append, scanFraction.eq_def]
    split
    · exact absurd rfl (stop '.' rfl).2
    · rfl
  | cons c cs =>
    rw [if_neg (by simp), List.cons_append, scanFraction,
      digits_append each fun c mem => (stop c mem).1]

theorem isDigit_decimal (n : ℕ) : ∀ c ∈ decimal n, c.isDigit = true :=
  fun _ => Nat.isDigit_of_mem_toDigits (by decide) (by decide)

theorem decimal_ne_nil (n : ℕ) : decimal n ≠ [] := by simp [decimal]

theorem ofDigitChars_decimal (n : ℕ) : Nat.ofDigitChars 10 (decimal n) 0 = n :=
  Nat.ofDigitChars_ten_toDigits

theorem scanExponent_append (exponent : Option ℤ) {rest : List Char} (ends : Ends rest) :
    scanExponent (exponentChars exponent ++ rest) = some (exponent, rest) := by
  have found : ∀ k, ∃ c cs, decimal k = c :: cs := fun k =>
    List.exists_cons_of_ne_nil (decimal_ne_nil k)
  have size : ∀ k, digits (decimal k ++ rest) = (decimal k, rest) := fun k =>
    digits_append (isDigit_decimal k) ends.noDigit
  match exponent with
  | none =>
    cases rest with
    | nil => rfl
    | cons c rest =>
      obtain ⟨-, -, small, capital⟩ := ends c rfl
      simp [exponentChars, scanExponent, small, capital]
  | some (.ofNat k) =>
    obtain ⟨c, cs, digits⟩ := found k
    simp only [exponentChars, List.cons_append, scanExponent, true_or, if_true, scanSign, size]
    rw [digits]
    simp only
    rw [← digits, ofDigitChars_decimal]
    rfl
  | some (.negSucc k) =>
    obtain ⟨c, cs, digits⟩ := found (k + 1)
    simp only [exponentChars, List.cons_append, scanExponent, true_or, if_true, scanSign, size]
    rw [digits]
    simp only
    rw [← digits, ofDigitChars_decimal]
    rfl

/-- The rest of a literal, its sign being known. -/
def scanUnsigned (negative : Bool) (cs : List Char) : Option (Numeral × List Char) := do
  let (whole, cs) ← scanWhole cs
  let (fraction, cs) ← scanFraction cs
  let (exponent, cs) ← scanExponent cs
  return (⟨negative, whole, fraction, exponent⟩, cs)

theorem scan_minus (cs : List Char) : scan ('-' :: cs) = scanUnsigned true cs := rfl

theorem scan_of_ne_minus {c : Char} (h : c ≠ '-') (cs : List Char) :
    scan (c :: cs) = scanUnsigned false (c :: cs) := by
  rw [scan.eq_def]
  split
  next negative rest same =>
  split at same
  · next minus =>
    cases minus
    exact absurd rfl h
  · cases same
    rfl

/-- The text of a literal behind its whole part. -/
def tail (n : Numeral) : List Char :=
  (if n.fraction = [] then [] else '.' :: n.fraction) ++ exponentChars n.exponent

theorem chars_eq (n : Numeral) :
    n.chars = (if n.negative then ['-'] else []) ++ (n.whole ++ n.tail) := by
  rw [chars, tail, List.append_assoc, List.append_assoc]

theorem scanUnsigned_append {n : Numeral} (h : n.IsLiteral) {rest : List Char} (ends : Ends rest) :
    scanUnsigned n.negative (n.whole ++ n.tail ++ rest) = some (n, rest) := by
  have afterFraction : ∀ c ∈ (exponentChars n.exponent ++ rest).head?,
      c.isDigit = false ∧ c ≠ '.' := by
    match n.exponent with
    | none => exact fun c mem => ⟨(ends c mem).1, (ends c mem).2.1⟩
    | some (.ofNat _) | some (.negSucc _) =>
      rintro c ⟨⟩
      exact ⟨rfl, by decide⟩
  have afterWhole : NoDigit (n.tail ++ rest) := by
    rw [tail, List.append_assoc]
    by_cases none : n.fraction = []
    · rw [if_pos none]
      exact fun c mem => (afterFraction c mem).1
    · rw [if_neg none]
      rintro c ⟨⟩
      rfl
  rw [scanUnsigned, List.append_assoc, scanWhole_append h afterWhole]
  simp only [Option.bind_eq_bind, Option.bind_some]
  rw [tail, List.append_assoc, scanFraction_append h.fraction afterFraction]
  simp only [Option.bind_some]
  rw [scanExponent_append _ ends]
  rfl

/-- **A literal is read up to its end.** -/
theorem scan_chars {n : Numeral} (h : n.IsLiteral) {rest : List Char} (ends : Ends rest) :
    scan (n.chars ++ rest) = some (n, rest) := by
  have unsigned := scanUnsigned_append h ends
  rw [chars_eq]
  cases negative : n.negative with
  | true =>
    rw [negative] at unsigned
    exact (scan_minus _).trans unsigned
  | false =>
    obtain ⟨c, cs, starts⟩ := List.exists_cons_of_ne_nil h.nonempty
    have unsignedStart : c ≠ '-' := by
      rintro rfl
      have := h.whole '-' (by simp [starts])
      cases this
    rw [negative, starts] at unsigned
    rw [starts]
    exact (scan_of_ne_minus unsignedStart _).trans unsigned

/-! ### Digits laid out -/

theorem ofDigitChars_replicate_zero (k : ℕ) : Nat.ofDigitChars 10 (List.replicate k '0') 0 = 0 := by
  induction k with
  | zero => rfl
  | succ k ih =>
    rw [List.replicate_succ, Nat.ofDigitChars_cons]
    exact ih

/-- Digits for zero are laid out as a zero. -/
theorem digitValue_layOut_nil (negative : Bool) (lead : ℤ) :
    (layOut negative [] lead).digitValue = 0 := by
  rw [layOut]
  split
  · rw [digitValue]
    simp only [List.append_nil, List.cons_append, List.nil_append]
    exact ofDigitChars_replicate_zero (_ + 1)
  · split
    · simp only [digitValue, List.take_nil, List.drop_nil, List.length_nil, List.nil_append,
        if_true]
      rw [← List.replicate_one, List.replicate_append_replicate]
      exact ofDigitChars_replicate_zero _
    · rfl

theorem isLiteral_layOut {negative : Bool} {ds : List Char} (nonempty : ds ≠ [])
    (each : ∀ c ∈ ds, c.isDigit = true) (leading : ds.head? ≠ some '0') (lead : ℤ) :
    (layOut negative ds lead).IsLiteral := by
  obtain ⟨c, cs, rfl⟩ := List.exists_cons_of_ne_nil nonempty
  have unled : c ≠ '0' := fun same => leading (by rw [same]; rfl)
  have zeros : ∀ k, ∀ c ∈ List.replicate k '0', c.isDigit = true := by
    intro k c mem
    rw [List.eq_of_mem_replicate mem]
    rfl
  rw [layOut]
  split
  · refine ⟨by simp, fun _ => rfl, by simp, fun d mem => ?_⟩
    obtain padding | digit := List.mem_append.mp mem
    · exact zeros _ d padding
    · exact each d digit
  · split
    · refine ⟨by simp, fun led => absurd (by simpa using led) unled, fun d mem => ?_,
        fun d mem => ?_⟩
      · obtain digit | padding := List.mem_append.mp mem
        · exact each d (List.mem_of_mem_take digit)
        · exact zeros _ d padding
      · dsimp only at mem
        split at mem
        · rw [List.mem_singleton.mp mem]
          rfl
        · exact each d (List.mem_of_mem_drop mem)
    · refine ⟨by simp, fun led => absurd (by simpa using led) unled, fun d mem => ?_,
        fun d mem => ?_⟩
      · exact each d (List.mem_of_mem_take mem)
      · exact each d (List.mem_of_mem_drop mem)

theorem isInteger_layOut {negative : Bool} {ds : List Char} (nonempty : ds ≠ []) (lead : ℤ) :
    (layOut negative ds lead).isInteger = false := by
  rw [layOut]
  split
  · simp [isInteger, nonempty]
  · split
    · simp only [isInteger]
      split <;> simp_all
    · simp [isInteger]

/-- Without its trailing zeros a number that is not zero still has its first digit. -/
theorem isLiteral_ofScaled {negative : Bool} {k : ℕ} (positive : k ≠ 0) (exponent : ℤ) :
    (ofScaled negative k exponent).IsLiteral ∧
      (ofScaled negative k exponent).isInteger = false := by
  have led : (decimal k).head? ≠ some '0' := fun led => positive (Amount.head?_toDigits led)
  obtain ⟨c, cs, digits⟩ := List.exists_cons_of_ne_nil (decimal_ne_nil k)
  have unled : c ≠ '0' := fun same => led (by rw [digits, same]; rfl)
  have kept : (decimal k).rdropWhile (· = '0') <+: decimal k := List.rdropWhile_prefix _ _
  have nonempty : (decimal k).rdropWhile (· = '0') ≠ [] := by
    rw [Ne, List.rdropWhile_eq_nil_iff, digits]
    exact fun all => unled (by simpa using all c List.mem_cons_self)
  have leading : ((decimal k).rdropWhile (· = '0')).head? ≠ some '0' := by
    obtain ⟨zeros, whole⟩ := kept
    rwa [← @List.head?_append_of_ne_nil _ _ zeros nonempty, whole]
  exact ⟨isLiteral_layOut nonempty (fun c mem => isDigit_decimal k c (kept.subset mem)) leading _,
    isInteger_layOut nonempty _⟩

/-- Digits for zero denote a zero. -/
theorem double?_ofScaled_zero (negative : Bool) (exponent : ℤ) :
    ∃ sign, (ofScaled negative 0 exponent).double? = some (Binary64.zero sign) := by
  have none : (ofScaled negative 0 exponent).digitValue = 0 := digitValue_layOut_nil negative _
  exact ⟨_, by rw [double?, none, Binary64.ofDecimal?_zero]⟩

end Numeral

namespace Binary64

open Numeral

/-- A short literal for a double that is not zero is one of a number that is not zero. -/
theorem isLiteral_of_shortest? {x : Binary64} {n : Numeral} (h : x.shortest? = some n)
    (nonzero : x.significand ≠ 0) : n.IsLiteral ∧ n.isInteger = false := by
  obtain ⟨precision, -, near⟩ := List.mem_flatMap.mp (List.mem_of_find?_eq_some h)
  obtain ⟨k, -, rfl⟩ := List.mem_map.mp near
  refine isLiteral_ofScaled (fun zero => ?_) _
  obtain ⟨sign, denotes⟩ :=
    double?_ofScaled_zero x.negative (x.leadingPower - (↑(precision + 1) - 1))
  rw [zero] at h
  have same := (double?_of_shortest? h).symm.trans denotes
  cases same
  exact nonzero rfl

/-- **A double is written as a literal with a point or an exponent.** -/
theorem isLiteral_numeral (x : Binary64) : x.numeral.IsLiteral ∧ x.numeral.isInteger = false := by
  rw [numeral]
  split
  · exact ⟨⟨by simp, by simp, by simp, by simp⟩, rfl⟩
  · next nonzero =>
    cases found : x.shortest? with
    | some n => exact isLiteral_of_shortest? found nonzero
    | none =>
      refine ⟨⟨decimal_ne_nil _, fun led => ?_, isDigit_decimal _, by simp⟩, rfl⟩
      dsimp only [Option.getD_none] at led ⊢
      rw [Amount.head?_toDigits led]
      rfl

end Binary64

namespace Number

open Numeral (digitValue isInteger ofDigitChars_decimal)

/-- A number that JSON has: a double, or an integer of 64 bits. -/
def IsWritable : Number → Prop
  | .integer n => IsWord n
  | .double _ => True

theorem isLiteral_decimal (negative : Bool) (k : ℕ) :
    (⟨negative, Numeral.decimal k, [], none⟩ : Numeral).IsLiteral where
  nonempty := Numeral.decimal_ne_nil k
  leading led := by
    dsimp only at led ⊢
    rw [Amount.head?_toDigits led]
    rfl
  whole := Numeral.isDigit_decimal k
  fraction := by simp

theorem isLiteral_numeral (n : Number) : n.numeral.IsLiteral := by
  match n with
  | .integer (.ofNat k) => exact isLiteral_decimal false k
  | .integer (.negSucc k) => exact isLiteral_decimal true (k + 1)
  | .double x => exact x.isLiteral_numeral.1

theorem digitValue_decimal (negative : Bool) (k : ℕ) :
    (⟨negative, Numeral.decimal k, [], none⟩ : Numeral).digitValue = k := by
  rw [digitValue, List.append_nil, ofDigitChars_decimal]

/-- **The literal of a number denotes that number.** -/
theorem ofNumeral?_numeral {n : Number} (h : n.IsWritable) : ofNumeral? n.numeral = some n := by
  match n with
  | .integer (.ofNat k) =>
    have word : IsWord (k : ℤ) := h
    simp [numeral, ofNumeral?, digitValue_decimal, word, isInteger]
  | .integer (.negSucc k) =>
    have word : IsWord (-((k + 1 : ℕ) : ℤ)) := h
    simp only [numeral, ofNumeral?, digitValue_decimal, if_true]
    rw [if_pos ⟨rfl, word, by simp⟩]
    rfl
  | .double x =>
    rw [numeral, ofNumeral?, x.isLiteral_numeral.2, x.double?_numeral]
    rw [if_neg (by simp)]
    rfl

end Number

end RouterCall
