/-!
# Strings that begin with `0x`

Addresses, hook addresses and hex amounts all begin with `0x`. That beginning is the whole check:
what follows it, its length and its case are left to whoever uses the value.
-/

namespace RouterCall

/-- What every address starts with. -/
def HexString.marker : String := "0x"

/-- Whether a text begins with `0x`. The `x` is lowercase. -/
def HexString.begins (text : String) : Bool := HexString.marker.toList.isPrefixOf text.toList

/-- A text that begins with `0x`. -/
structure HexString where
  text : String
  begins_text : HexString.begins text = true
deriving DecidableEq

namespace HexString

/-- The text as a hex string, if it begins with `0x`. -/
def ofString? (text : String) : Option HexString :=
  if h : begins text = true then some ⟨text, h⟩ else none

@[simp] theorem ofString?_text (hex : HexString) : ofString? hex.text = some hex := by
  simp [ofString?, hex.begins_text]

theorem ofString?_eq_some_iff {text : String} {hex : HexString} :
    ofString? text = some hex ↔ hex.text = text := by
  constructor
  · intro h
    rw [ofString?] at h
    split at h
    · cases h; rfl
    · cases h
  · rintro rfl
    exact ofString?_text hex

end HexString

end RouterCall
