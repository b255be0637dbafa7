/-!
# Fee tiers

A hop of a classic route names the pool it goes through by its fee, in hundredths of a basis point.
Only seven fees exist. Pools of the versioned router take any integer fee and do not use this type.
-/

namespace RouterCall

/-- The fees a classic pool can have. -/
inductive FeeTier where
  | lowest
  | low200
  | low300
  | low400
  | low
  | medium
  | high
deriving DecidableEq

namespace FeeTier

/-- Every tier, by increasing fee. -/
def all : List FeeTier := [lowest, low200, low300, low400, low, medium, high]

/-- The fee of a tier, in hundredths of a basis point. -/
def fee : FeeTier → Nat
  | lowest => 100
  | low200 => 200
  | low300 => 300
  | low400 => 400
  | low => 500
  | medium => 3000
  | high => 10000

/-- The name of a tier. -/
def name : FeeTier → String
  | lowest => "Lowest"
  | low200 => "Low200"
  | low300 => "Low300"
  | low400 => "Low400"
  | low => "Low"
  | medium => "Medium"
  | high => "High"

/-- The tier of a fee. -/
def ofFee? (fee : Int) : Option FeeTier := all.find? fun tier => tier.fee = fee

/-- The fees of all tiers, by increasing fee. -/
def fees : List Nat := all.map fee

theorem mem_all (tier : FeeTier) : tier ∈ all := by cases tier <;> decide

@[simp] theorem ofFee?_fee (tier : FeeTier) : ofFee? tier.fee = some tier := by
  cases tier <;> rfl

theorem fee_of_ofFee? {fee : Int} {tier : FeeTier} (h : ofFee? fee = some tier) :
    tier.fee = fee := by
  simpa using List.find?_some h

end FeeTier

end RouterCall
