import RouterCall.Amount
import RouterCall.FeeTier

/-!
# Parameters of classic commands

Every command except the versioned swap takes parameters of one union: four amounts that differ only
in the role they play, a route through classic pools, a flag that says who pays, and everything
else. The last arm keeps a name and a JSON value as they came, and gives no meaning to them.

## Main definitions

* `AmountRole`, `Hop`, `Parameter`
* `Parameter.name`: the `name` on the wire
* `Parameter.toJson`: the `{name, value}` object on the wire
-/

namespace RouterCall

/-- The part an amount plays in a swap. The `max` and `min` roles bound the side that is not fixed.
-/
inductive AmountRole where
  | amountIn
  | amountInMax
  | amountOut
  | amountOutMin
deriving DecidableEq

namespace AmountRole

/-- Every role, in the order in which parameters are recognised. -/
def all : List AmountRole := [amountIn, amountInMax, amountOut, amountOutMin]

/-- The name of a role on the wire. -/
def name : AmountRole → String
  | amountIn => "amountIn"
  | amountInMax => "amountInMax"
  | amountOut => "amountOut"
  | amountOutMin => "amountOutMin"

/-- The role of a name. -/
def ofName? (name : String) : Option AmountRole := all.find? fun role => role.name = name

@[simp] theorem ofName?_name (role : AmountRole) : ofName? role.name = some role := by
  cases role <;> decide

theorem name_of_ofName? {name : String} {role : AmountRole} (h : ofName? name = some role) :
    role.name = name := by
  simpa using List.find?_some h

end AmountRole

/-- One pool of a classic route. -/
structure Hop where
  tokenIn : HexString
  tokenOut : HexString
  fee : FeeTier
deriving DecidableEq

/-- A hop on the wire. -/
def Hop.toJson (hop : Hop) : Json :=
  .object [
    ("tokenIn", .string hop.tokenIn.text),
    ("tokenOut", .string hop.tokenOut.text),
    ("fee", .ofInt hop.fee.fee)]

/-- A parameter of a classic command. -/
inductive Parameter where
  | amount (role : AmountRole) (quantity : Amount)
  | path (hops : List Hop)
  | payerIsUser (flag : Bool)
  | fallback (name : String) (value : Json)

namespace Parameter

/-- The name of a route parameter. -/
def pathName : String := "path"

/-- The name of the payer parameter. -/
def payerName : String := "payerIsUser"

/-- The name of a parameter on the wire. -/
def name : Parameter → String
  | .amount role _ => role.name
  | .path _ => pathName
  | .payerIsUser _ => payerName
  | .fallback name _ => name

/-- The value of a parameter on the wire. -/
def value : Parameter → Json
  | .amount _ quantity => quantity.toJson
  | .path hops => .array (hops.map Hop.toJson)
  | .payerIsUser flag => .bool flag
  | .fallback _ value => value

/-- A name and a value on the wire. -/
def named (name : String) (value : Json) : Json :=
  .object [("name", .string name), ("value", value)]

/-- A parameter on the wire. -/
def toJson (parameter : Parameter) : Json := named parameter.name parameter.value

/-- Whether a parameter is kept without a meaning. -/
def isFallback : Parameter → Bool
  | .fallback _ _ => true
  | _ => false

/-- The amount of a parameter, if it has the given role. -/
def amountOf? (role : AmountRole) : Parameter → Option Amount
  | .amount found quantity => if found = role then some quantity else none
  | _ => none

end Parameter

end RouterCall
