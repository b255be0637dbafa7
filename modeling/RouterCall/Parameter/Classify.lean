import RouterCall.Field
import RouterCall.Parameter.Basic

/-!
# Recognising parameters of classic commands

A raw parameter is an object with a string `name` and a `value`. The name decides: a modeled name
makes demands on the value, and a value that does not meet them refuses the parameter. It does not
turn the parameter into an opaque one; only a name that is not modeled does that.

## Main definitions

* `Parameter.split`: the name and the value of a raw parameter
* `Parameter.ofNamed`: the parameter that a name and a value make
* `Parameter.classify`: both steps
-/

namespace RouterCall

namespace Parameter

/-- The name and the value of a raw parameter. All faults here are shape faults. -/
def split (raw : Json) : Checked (String × Json) :=
  match raw.asObject? with
  | none => .error (.shape [] (.expected "parameter object" raw.kind))
  | some members =>
    match members.lookup "name" with
    | none => .error (.shape [.key "name"] (.missing "parameter name"))
    | some (.string name) =>
      match members.lookup "value" with
      | none => .error (.shape [.key "value"] (.missing "parameter value"))
      | some value => .ok (name, value)
    | some other => .error (.shape [.key "name"] (.expected "string" other.kind))

end Parameter

/-- A fee tier, which must be an integer and one of the seven fees. -/
def FeeTier.check (value : Json) : Checked FeeTier := do
  let fee ← Field.integer value
  match FeeTier.ofFee? fee.toInt with
  | some tier => return tier
  | none => throw (.value [] (.notAFeeTier fee.toInt))

/-- A hop of a classic route. -/
def Hop.check (value : Json) : Checked Hop := do
  let members ← Field.object value
  let tokenIn ← field members "tokenIn" (Field.hex "tokenIn")
  let tokenOut ← field members "tokenOut" (Field.hex "tokenOut")
  let fee ← field members "fee" FeeTier.check
  return { tokenIn, tokenOut, fee }

namespace Parameter

/-- The route that a value describes. -/
def checkPath (value : Json) : Checked (List Hop) := do
  eachItem Hop.check (← Field.array value)

/-- The parameter that a name and a value make. -/
def ofNamed (name : String) (value : Json) : Checked Parameter :=
  match AmountRole.ofName? name with
  | some role => Checked.under (.amount role <$> Field.amount value) [.key "value"]
  | none =>
    if name = pathName then Checked.under (.path <$> checkPath value) [.key "value"]
    else if name = payerName then
      Checked.under (.payerIsUser <$> Field.boolean value) [.key "value"]
    else .ok (.fallback name value)

/-- The parameter a raw value is. -/
def classify (raw : Json) : Checked Parameter := do
  let (name, value) ← split raw
  ofNamed name value

/-- Whether a name is one of the six that make demands on their values. -/
def isModeled (name : String) : Bool :=
  (AmountRole.ofName? name).isSome || name = pathName || name = payerName

theorem ofNamed_of_not_isModeled {name : String} (h : isModeled name = false) (value : Json) :
    ofNamed name value = .ok (.fallback name value) := by
  simp only [isModeled, Bool.or_eq_false_iff, decide_eq_false_iff_not,
    Option.isSome_eq_false_iff, Option.isNone_iff_eq_none] at h
  simp [ofNamed, h.1.1, h.1.2, h.2]

end Parameter

end RouterCall
