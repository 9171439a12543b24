import BridgeCustody.Json.Wire

/-!
# Limits on Single Transfers

Bounds on the size of one transfer, kept apart for the two directions. Forward
swaps must lie between a minimum and a maximum. In the reverse direction only
the maximum binds: a refund must be able to return what was once swapped even
after the minimum or the fee was raised above it, and then all of it is fee.

## Main definitions

* `Ledger.SwapLimits`: Bounds for forward swaps.
* `Ledger.ReverseLimits`: Bounds and fee for the reverse direction.
* `Ledger.ReverseLimits.feeFor`: The fee on an amount.

## Theorems

* `Ledger.ReverseLimits.toNat_feeFor`: The fee never exceeds the amount.
-/

namespace BridgeCustody

namespace Ledger

/-- Bounds for forward swaps. -/
structure SwapLimits where
  min : Amount
  max : Amount
deriving DecidableEq

/-- Bounds and flat fee for refunds and reverse swaps. -/
structure ReverseLimits where
  min : Amount
  max : Amount
  fee : Amount
deriving DecidableEq

/-- The minimum does not exceed the maximum. -/
def SwapLimits.Ordered (limits : SwapLimits) : Prop :=
  limits.min ≤ limits.max

/-- The fee does not exceed the minimum, nor the minimum the maximum. -/
def ReverseLimits.Ordered (limits : ReverseLimits) : Prop :=
  limits.fee ≤ limits.min ∧ limits.min ≤ limits.max

/-- The fee on an amount: the flat fee, but no more than there is. -/
def ReverseLimits.feeFor (limits : ReverseLimits) (amount : Amount) : Amount :=
  amount.least limits.fee

theorem ReverseLimits.toNat_feeFor (limits : ReverseLimits) (amount : Amount) :
    (limits.feeFor amount).toNat = Nat.min amount.toNat limits.fee.toNat :=
  Amount.toNat_least _ _

instance : Wire SwapLimits where
  toJson l := .object [("min", Wire.toJson l.min), ("max", Wire.toJson l.max)]
  ofJson? j := do
    let f ← j.record? ["min", "max"]
    return { min := ← Json.required? f "min", max := ← Json.required? f "max" }

instance : Wire ReverseLimits where
  toJson l := .object
    [("min", Wire.toJson l.min), ("max", Wire.toJson l.max), ("fee", Wire.toJson l.fee)]
  ofJson? j := do
    let f ← j.record? ["min", "max", "fee"]
    return {
      min := ← Json.required? f "min"
      max := ← Json.required? f "max"
      fee := ← Json.required? f "fee" }

end Ledger

end BridgeCustody
