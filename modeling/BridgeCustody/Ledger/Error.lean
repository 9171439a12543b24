import BridgeCustody.Fault
import BridgeCustody.Guard
import BridgeCustody.Ledger.Limits
import BridgeCustody.Ledger.Role

/-!
# Refusals of the Ledger

Why the ledger refuses a call. Each constructor is one cause with the values
that were compared; the wording is in `Error.message?` alone.

## Main definitions

* `Ledger.LimitsFault`, `Ledger.AmountFault`: What is wrong with limits and
  amounts.
* `Ledger.Error`: Why a call is refused.
* `Ledger.Error.message?`: The wording.
-/

namespace BridgeCustody

namespace Ledger

/-- What is wrong with a pair of limits. -/
inductive LimitsFault
  | swapCrossed (limits : SwapLimits)
  | reverseFeeAboveMin (limits : ReverseLimits)
  | reverseCrossed (limits : ReverseLimits)
deriving DecidableEq

/-- What is wrong with an amount. -/
inductive AmountFault
  | zeroSwap
  | zero
  | outsideSwapLimits (amount : Amount) (limits : SwapLimits)
  | aboveReverseMax (amount max : Amount)
  | noFees
  | noExcess
deriving DecidableEq

/-- Why a call is refused. -/
inductive Error
  | host (fault : Fault)
  | noSum (a b : Amount)
  | noDifference (a b : Amount)
  | unauthorized (required : List Role)
  | alreadyGranted (role : Role) (holder : Address)
  | notGranted (role : Role) (holder : Address)
  | paused
  | deleted
  | deletionTooEarly (earliest : UInt64)
  | invalidLimits (fault : LimitsFault)
  | invalidAmount (fault : AmountFault)
  | capExceeded (supply amount cap : Amount)
  | supplyExceeded (amount supply : Amount)
  | allowanceExceeded (amount allowance : Amount)
  | alreadyRefunded (id : UInt64)
  | unknownSwap (id next : UInt64)
  | staleEon (current got : UInt64)
  | unrecognizedToken (token : Address)
  | blankDestination
deriving DecidableEq

/-- What is wrong with a pair of limits, in words. -/
def LimitsFault.message : LimitsFault → String
  | swapCrossed l => "swap min " ++ l.min.text ++ " > max " ++ l.max.text
  | reverseFeeAboveMin l => "reverse swap fee " ++ l.fee.text ++ " > min " ++ l.min.text
  | reverseCrossed l => "reverse swap min " ++ l.min.text ++ " > max " ++ l.max.text

/-- What is wrong with an amount, in words. -/
def AmountFault.message : AmountFault → String
  | zeroSwap => "swap amount must be positive"
  | zero => "amount must be positive"
  | outsideSwapLimits amount l =>
    amount.text ++ " outside swap limits [" ++ l.min.text ++ ", " ++ l.max.text ++ "]"
  | aboveReverseMax amount max => amount.text ++ " above reverse swap max " ++ max.text
  | noFees => "no fees accrued"
  | noExcess => "no excess funds"

/-- Why a call is refused, in words. -/
def Error.message? : Error → Option String
  | host fault => fault.message?
  | noSum a b => some (noSumText a b)
  | noDifference a b => some (noDifferenceText a b)
  | unauthorized required =>
    some ("Unauthorized: requires role " ++ " or ".intercalate (required.map Role.name))
  | alreadyGranted role holder =>
    some ("Role " ++ role.name ++ " already granted to " ++ holder.text)
  | notGranted role holder => some ("Role " ++ role.name ++ " not granted to " ++ holder.text)
  | paused => some "Contract has been paused"
  | deleted => some "Contract has been deleted"
  | deletionTooEarly earliest =>
    some ("Protection period not elapsed: deletion allowed from block "
      ++ Decimal.text earliest.toNat)
  | invalidLimits fault => some ("Invalid limits: " ++ fault.message)
  | invalidAmount fault => some ("Invalid amount: " ++ fault.message)
  | capExceeded supply amount cap =>
    some ("Cap exceeded: supply " ++ supply.text ++ " + amount " ++ amount.text
      ++ " > cap " ++ cap.text)
  | supplyExceeded amount supply =>
    some ("Supply exceeded: amount " ++ amount.text ++ " > supply " ++ supply.text)
  | allowanceExceeded amount allowance =>
    some ("Reverse aggregated allowance exceeded: amount " ++ amount.text
      ++ " > allowance " ++ allowance.text)
  | alreadyRefunded id => some ("Swap " ++ Decimal.text id.toNat ++ " already refunded")
  | unknownSwap id next =>
    some ("Invalid swap id " ++ Decimal.text id.toNat ++ ": next swap id is "
      ++ Decimal.text next.toNat)
  | staleEon current got =>
    some ("Stale relay eon: current " ++ Decimal.text current.toNat ++ ", got "
      ++ Decimal.text got.toNat)
  | unrecognizedToken token => some ("Unrecognized token: " ++ token.text)
  | blankDestination => some "Invalid remote address: destination must not be empty"

/-- What a step around the ledger came to, with its fault as a refusal. -/
def ofHost {α : Type} (result : Except Fault α) : Except Error α :=
  result.mapError .host

/-- An address out of a message. -/
def checkAddress [AddressRule] (text : String) : Except Error Address :=
  ofHost ((Address.check text).mapError .address)

/-- Limits for forward swaps that are in order. -/
def SwapLimits.validate (limits : SwapLimits) : Except Error Unit :=
  ensure (limits.min ≤ limits.max) (.invalidLimits (.swapCrossed limits))

/-- An amount within the limits for forward swaps. -/
def SwapLimits.check (limits : SwapLimits) (amount : Amount) : Except Error Unit :=
  ensure (limits.min ≤ amount ∧ amount ≤ limits.max)
    (.invalidAmount (.outsideSwapLimits amount limits))

/-- Limits for the reverse direction that are in order. -/
def ReverseLimits.validate (limits : ReverseLimits) : Except Error Unit := do
  ensure (limits.fee ≤ limits.min) (.invalidLimits (.reverseFeeAboveMin limits))
  ensure (limits.min ≤ limits.max) (.invalidLimits (.reverseCrossed limits))

/-- An amount within the limits for the reverse direction. -/
def ReverseLimits.check (limits : ReverseLimits) (amount : Amount) : Except Error Unit :=
  ensure (amount ≤ limits.max) (.invalidAmount (.aboveReverseMax amount limits.max))

/-- An amount that is something. -/
def checkPositive (amount : Amount) : Except Error Unit :=
  ensure (amount ≠ .zero) (.invalidAmount .zero)

theorem SwapLimits.validate_eq_ok_iff {limits : SwapLimits} :
    limits.validate = .ok () ↔ limits.Ordered :=
  ensure_eq_ok_iff

theorem ReverseLimits.validate_eq_ok_iff {limits : ReverseLimits} :
    limits.validate = .ok () ↔ limits.Ordered := by
  unfold ReverseLimits.validate ReverseLimits.Ordered
  rw [ensure_bind]
  split
  · next h => simp [ensure_eq_ok_iff, h]
  · next h => simp [h]

end Ledger

end BridgeCustody
