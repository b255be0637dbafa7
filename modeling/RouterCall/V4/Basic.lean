import RouterCall.Parameter.Basic

/-!
# Parameters of the versioned swap

The versioned swap has a union of its own, with no opaque arm. Its four parameters are the two
directions of a trade, each through one pool or along a route, and each holds a list of steps. On
the wire a step is an object named `swap` around its description.

An exact-in step fixes what is spent and bounds what is received from below; an exact-out step fixes
what is received and bounds what is spent from above.

## Main definitions

* `V4.PoolKey`, `V4.PathKey`: a pool by its full key, and a pool as a hop of a route
* `V4.ExactInSingle`, `V4.ExactOutSingle`, `V4.ExactIn`, `V4.ExactOut`: the four steps
* `V4.Parameter` and `V4.Parameter.toJson`
-/

namespace RouterCall

namespace V4

/-- A pool by its full key. Its hooks may be any text. -/
structure PoolKey where
  currency0 : HexString
  currency1 : HexString
  fee : Int64
  tickSpacing : Int64
  hooks : String
deriving DecidableEq

/-- A pool as a hop of a route, which names the currency on its far side. -/
structure PathKey where
  intermediateCurrency : HexString
  fee : Int64
  tickSpacing : Int64
  hooks : HexString
  hookData : String
deriving DecidableEq

/-- A trade through one pool that fixes what is spent. -/
structure ExactInSingle where
  poolKey : PoolKey
  zeroForOne : Bool
  amountIn : Amount
  amountOutMinimum : Amount
  sqrtPriceLimitX96 : Amount
  hookData : String
deriving DecidableEq

/-- A trade through one pool that fixes what is received. -/
structure ExactOutSingle where
  poolKey : PoolKey
  zeroForOne : Bool
  amountOut : Amount
  amountInMaximum : Amount
  sqrtPriceLimitX96 : Amount
  hookData : String
deriving DecidableEq

/-- A trade along a route that fixes what is spent. -/
structure ExactIn where
  currencyIn : HexString
  path : List PathKey
  amountIn : Amount
  amountOutMinimum : Amount
deriving DecidableEq

/-- A trade along a route that fixes what is received. -/
structure ExactOut where
  currencyOut : HexString
  path : List PathKey
  amountOut : Amount
  amountInMaximum : Amount
deriving DecidableEq

/-- A parameter of the versioned swap: its steps, all of one sort. -/
inductive Parameter where
  | exactIn (steps : List ExactIn)
  | exactOut (steps : List ExactOut)
  | exactInSingle (steps : List ExactInSingle)
  | exactOutSingle (steps : List ExactOutSingle)
deriving DecidableEq

/-! ### On the wire -/

/-- A pool key on the wire. -/
def PoolKey.toJson (pool : PoolKey) : Json :=
  .object [
    ("currency0", .string pool.currency0.text),
    ("currency1", .string pool.currency1.text),
    ("fee", .ofInt pool.fee.toInt),
    ("tickSpacing", .ofInt pool.tickSpacing.toInt),
    ("hooks", .string pool.hooks)]

/-- A path key on the wire. -/
def PathKey.toJson (hop : PathKey) : Json :=
  .object [
    ("intermediateCurrency", .string hop.intermediateCurrency.text),
    ("fee", .ofInt hop.fee.toInt),
    ("tickSpacing", .ofInt hop.tickSpacing.toInt),
    ("hooks", .string hop.hooks.text),
    ("hookData", .string hop.hookData)]

/-- A step on the wire, without its `swap` object. -/
def ExactInSingle.toJson (step : ExactInSingle) : Json :=
  .object [
    ("poolKey", step.poolKey.toJson),
    ("zeroForOne", .bool step.zeroForOne),
    ("amountIn", step.amountIn.toJson),
    ("amountOutMinimum", step.amountOutMinimum.toJson),
    ("sqrtPriceLimitX96", step.sqrtPriceLimitX96.toJson),
    ("hookData", .string step.hookData)]

/-- A step on the wire, without its `swap` object. -/
def ExactOutSingle.toJson (step : ExactOutSingle) : Json :=
  .object [
    ("poolKey", step.poolKey.toJson),
    ("zeroForOne", .bool step.zeroForOne),
    ("amountOut", step.amountOut.toJson),
    ("amountInMaximum", step.amountInMaximum.toJson),
    ("sqrtPriceLimitX96", step.sqrtPriceLimitX96.toJson),
    ("hookData", .string step.hookData)]

/-- A step on the wire, without its `swap` object. -/
def ExactIn.toJson (step : ExactIn) : Json :=
  .object [
    ("currencyIn", .string step.currencyIn.text),
    ("path", .array (step.path.map PathKey.toJson)),
    ("amountIn", step.amountIn.toJson),
    ("amountOutMinimum", step.amountOutMinimum.toJson)]

/-- A step on the wire, without its `swap` object. -/
def ExactOut.toJson (step : ExactOut) : Json :=
  .object [
    ("currencyOut", .string step.currencyOut.text),
    ("path", .array (step.path.map PathKey.toJson)),
    ("amountOut", step.amountOut.toJson),
    ("amountInMaximum", step.amountInMaximum.toJson)]

/-- The name of every step on the wire. -/
def stepName : String := "swap"

/-- Steps on the wire, each a `swap` object. -/
def stepsToJson {α : Type} (describe : α → Json) (steps : List α) : Json :=
  .array (steps.map fun step => RouterCall.Parameter.named stepName (describe step))

namespace Parameter

/-- The name of the parameter that holds exact-in routes. -/
def exactInName : String := "SWAP_EXACT_IN"

/-- The name of the parameter that holds exact-out routes. -/
def exactOutName : String := "SWAP_EXACT_OUT"

/-- The name of the parameter that holds exact-in trades through one pool. -/
def exactInSingleName : String := "SWAP_EXACT_IN_SINGLE"

/-- The name of the parameter that holds exact-out trades through one pool. -/
def exactOutSingleName : String := "SWAP_EXACT_OUT_SINGLE"

/-- The name of a parameter on the wire. -/
def name : Parameter → String
  | .exactIn _ => exactInName
  | .exactOut _ => exactOutName
  | .exactInSingle _ => exactInSingleName
  | .exactOutSingle _ => exactOutSingleName

/-- The value of a parameter on the wire. -/
def value : Parameter → Json
  | .exactIn steps => stepsToJson ExactIn.toJson steps
  | .exactOut steps => stepsToJson ExactOut.toJson steps
  | .exactInSingle steps => stepsToJson ExactInSingle.toJson steps
  | .exactOutSingle steps => stepsToJson ExactOutSingle.toJson steps

/-- A parameter on the wire. -/
def toJson (parameter : Parameter) : Json :=
  RouterCall.Parameter.named parameter.name parameter.value

end Parameter

end V4

end RouterCall
