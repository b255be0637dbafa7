import RouterCall.Log.Record
import RouterCall.Text.Case

/-!
# Levels as texts

A level is written as its name, in any case, or as its rank. Settings admit the name only; the log
itself admits both. A rank may carry a plus sign and leading zeros.

## Main definitions

* `LogLevel.ofName?`, `LogLevel.ofRank?`
* `LogLevel.ofText?`: name or rank

## Main results

* `LogLevel.ofName?_eq_some_iff`: a name names one level
* `LogLevel.ofText?_of_ofName?`: what is a level in settings is the same level in the log
-/

namespace RouterCall

/-- The number that decimal digits write, after an optional plus sign. -/
def unsigned? (text : String) : Option Nat :=
  let digits := match text.toList with
    | '+' :: digits => digits
    | digits => digits
  if digits ≠ [] ∧ digits.all Char.isDigit then some (Nat.ofDigitChars 10 digits 0) else none

namespace LogLevel

/-- The level a text names, whatever the case of its letters. -/
def ofName? (text : String) : Option LogLevel := all.find? fun level => level.name = asciiLower text

/-- The level of a rank. -/
def ofRank? (rank : Nat) : Option LogLevel := all.find? fun level => level.rank = rank

/-- The level a text names or ranks. -/
def ofText? (text : String) : Option LogLevel := (unsigned? text >>= ofRank?) <|> ofName? text

/-- What is said about a text that is no level. -/
def unknownMessage (text : String) : String := "Unknown log level: " ++ text

/-- Different levels have different names. -/
theorem name_injective {a b : LogLevel} (h : a.name = b.name) : a = b := by
  revert h
  cases a <;> cases b <;> decide

/-- A text names a level exactly when it is the name up to case. -/
theorem ofName?_eq_some_iff {text : String} {level : LogLevel} :
    ofName? text = some level ↔ level.name = asciiLower text := by
  constructor
  · intro h
    have found := List.find?_some h
    simpa using found
  · intro h
    have named : ∀ other : LogLevel, (other.name = asciiLower text) ↔ other = level := by
      intro other
      rw [← h]
      exact ⟨name_injective, fun same => by rw [same]⟩
    unfold ofName? all
    cases level <;> simp [named]

/-- No name of a level starts with a digit or a plus sign. -/
theorem unsigned?_of_ofName? {text : String} {level : LogLevel} (h : ofName? text = some level) :
    unsigned? text = none := by
  have lower := congrArg String.toList (ofName?_eq_some_iff.mp h)
  rw [toList_asciiLower] at lower
  rw [unsigned?]
  generalize text.toList = cs at lower
  cases cs with
  | nil => rfl
  | cons c rest =>
    have head : level.name.toList.head? = some c.toLower := by rw [lower]; rfl
    have noSign : c ≠ '+' := by
      rintro rfl
      revert head
      cases level <;> decide
    have noDigit : c.isDigit = false := by
      cases digit : c.isDigit with
      | false => rfl
      | true =>
        rw [toLower_of_isDigit digit] at head
        cases level <;> (injection head with same; rw [← same] at digit; contradiction)
    have kept : (match c :: rest with
        | '+' :: digits => digits
        | digits => digits) = c :: rest := by
      split
      · next same => exact absurd (List.cons.inj same).1 noSign
      · rfl
    simp only [kept]
    simp [noDigit]

/-- What is a level in settings is the same level in the log. -/
theorem ofText?_of_ofName? {text : String} {level : LogLevel} (h : ofName? text = some level) :
    ofText? text = some level := by
  simp [ofText?, unsigned?_of_ofName? h, h]

end LogLevel

end RouterCall
