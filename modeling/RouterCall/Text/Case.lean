/-!
# Case of letters

Names in settings are compared without regard to the case of ASCII letters. Every other letter is
itself: a dotted capital `İ` is no `i`.
-/

namespace RouterCall

/-- A text with its ASCII capitals made small. -/
def asciiLower (text : String) : String := String.ofList (text.toList.map Char.toLower)

@[simp] theorem toList_asciiLower (text : String) :
    (asciiLower text).toList = text.toList.map Char.toLower := by
  simp [asciiLower]

/-- Digits have no case. -/
theorem toLower_of_isDigit {c : Char} (h : c.isDigit = true) : c.toLower = c := by
  delta Char.toLower
  split
  · next capital =>
    exfalso
    simp only [Char.isDigit, Bool.and_eq_true, decide_eq_true_eq] at h
    have atMost := UInt32.le_iff_toNat_le.mp h.2
    have atLeast := UInt32.le_iff_toNat_le.mp capital.1
    simp at atMost atLeast
    omega
  · rfl

end RouterCall
