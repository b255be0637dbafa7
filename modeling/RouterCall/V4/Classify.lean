import RouterCall.Parameter.Classify
import RouterCall.V4.Basic

/-!
# Recognising parameters of the versioned swap

The name of a parameter picks one of the four sorts of step; any other name is a shape fault. Each
entry of the value must be an object named `swap`, and its own value must describe a step of that
sort. Fields are read in the order in which they are written out, so of two faulty fields the
earlier one is reported.

## Main definitions

* `V4.checkSteps`: the steps of a parameter's value, for one sort of step
* `V4.Parameter.classify`: the parameter a raw value is
-/

namespace RouterCall

namespace V4

/-- A pool by its full key. -/
def PoolKey.check (value : Json) : Checked PoolKey := do
  let members ← Field.object value
  let currency0 ← field members "currency0" (Field.hex "currency0")
  let currency1 ← field members "currency1" (Field.hex "currency1")
  let fee ← field members "fee" Field.integer
  let tickSpacing ← field members "tickSpacing" Field.integer
  let hooks ← field members "hooks" Field.string
  return { currency0, currency1, fee, tickSpacing, hooks }

/-- A hop of a route. -/
def PathKey.check (value : Json) : Checked PathKey := do
  let members ← Field.object value
  let intermediateCurrency ←
    field members "intermediateCurrency" (Field.hex "intermediateCurrency")
  let fee ← field members "fee" Field.integer
  let tickSpacing ← field members "tickSpacing" Field.integer
  let hooks ← field members "hooks" (Field.hex "hooks")
  let hookData ← field members "hookData" Field.string
  return { intermediateCurrency, fee, tickSpacing, hooks, hookData }

/-- A route. -/
def checkPath (value : Json) : Checked (List PathKey) := do
  eachItem PathKey.check (← Field.array value)

/-- An exact-in trade through one pool. -/
def ExactInSingle.check (value : Json) : Checked ExactInSingle := do
  let members ← Field.object value
  let poolKey ← field members "poolKey" PoolKey.check
  let zeroForOne ← field members "zeroForOne" Field.boolean
  let amountIn ← field members "amountIn" Field.amount
  let amountOutMinimum ← field members "amountOutMinimum" Field.amount
  let sqrtPriceLimitX96 ← field members "sqrtPriceLimitX96" Field.amount
  let hookData ← field members "hookData" Field.string
  return { poolKey, zeroForOne, amountIn, amountOutMinimum, sqrtPriceLimitX96, hookData }

/-- An exact-out trade through one pool. -/
def ExactOutSingle.check (value : Json) : Checked ExactOutSingle := do
  let members ← Field.object value
  let poolKey ← field members "poolKey" PoolKey.check
  let zeroForOne ← field members "zeroForOne" Field.boolean
  let amountOut ← field members "amountOut" Field.amount
  let amountInMaximum ← field members "amountInMaximum" Field.amount
  let sqrtPriceLimitX96 ← field members "sqrtPriceLimitX96" Field.amount
  let hookData ← field members "hookData" Field.string
  return { poolKey, zeroForOne, amountOut, amountInMaximum, sqrtPriceLimitX96, hookData }

/-- An exact-in trade along a route. -/
def ExactIn.check (value : Json) : Checked ExactIn := do
  let members ← Field.object value
  let currencyIn ← field members "currencyIn" (Field.hex "currencyIn")
  let path ← field members "path" checkPath
  let amountIn ← field members "amountIn" Field.amount
  let amountOutMinimum ← field members "amountOutMinimum" Field.amount
  return { currencyIn, path, amountIn, amountOutMinimum }

/-- An exact-out trade along a route. -/
def ExactOut.check (value : Json) : Checked ExactOut := do
  let members ← Field.object value
  let currencyOut ← field members "currencyOut" (Field.hex "currencyOut")
  let path ← field members "path" checkPath
  let amountOut ← field members "amountOut" Field.amount
  let amountInMaximum ← field members "amountInMaximum" Field.amount
  return { currencyOut, path, amountOut, amountInMaximum }

/-! ### Steps -/

/-- The description in one entry of a parameter's value. -/
def checkStep {α : Type} (describe : Json → Checked α) (entry : Json) : Checked α := do
  let members ← Field.object entry
  if members.lookup "name" >>= Json.asString? = some stepName then
    field members "value" describe
  else throw (.value [.key "name"] (.notNamed stepName))

/-- The steps of a parameter's value. -/
def checkSteps {α : Type} (describe : Json → Checked α) (value : Json) : Checked (List α) := do
  eachItem (checkStep describe) (← Field.array value)

namespace Parameter

/-- The parameter that a name and a value make. -/
def ofNamed (name : String) (value : Json) : Checked Parameter :=
  if name = exactInName then
    Checked.under (.exactIn <$> checkSteps ExactIn.check value) [.key "value"]
  else if name = exactOutName then
    Checked.under (.exactOut <$> checkSteps ExactOut.check value) [.key "value"]
  else if name = exactInSingleName then
    Checked.under (.exactInSingle <$> checkSteps ExactInSingle.check value) [.key "value"]
  else if name = exactOutSingleName then
    Checked.under (.exactOutSingle <$> checkSteps ExactOutSingle.check value) [.key "value"]
  else .error (.shape [.key "name"] (.unknownSwapParameter name))

/-- The parameter a raw value is. -/
def classify (raw : Json) : Checked Parameter := do
  let (name, value) ← RouterCall.Parameter.split raw
  ofNamed name value

end Parameter

end V4

end RouterCall
