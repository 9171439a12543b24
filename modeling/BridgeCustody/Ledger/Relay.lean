import BridgeCustody.Ledger.Outcome

/-!
# Relayed Operations

What relayers do on behalf of the remote chain: give back forward swaps that
were not delivered, and pay out value that left the remote chain for this one.
Each call names the relay eon it was signed for, so rotating the eon voids
everything signed before.

A relayed amount leaves the supply and the allowance in full. The fee stays in
custody as accrued fees, the rest is paid out; a fee that takes the whole amount
leaves nothing to pay and no message is sent.

## Main definitions

* `Ledger.checkRelayed`: What every relayed call is checked for first.
* `Ledger.settle`: The bookkeeping of a relayed amount.
* `Ledger.refund`: Gives back a forward swap.
* `Ledger.reverseSwap`: Pays out value from the remote chain.
* `Ledger.rotateEon`: Voids what was signed before.
-/

namespace BridgeCustody

namespace Ledger

variable [AddressRule]

/-- Whether a refund charges the fee. -/
inductive RefundFee
  | charged
  | waived
deriving DecidableEq, Repr

/-- The fee on a refund. -/
def refundFee (l : Ledger) (mode : RefundFee) (amount : Amount) : Amount :=
  match mode with
  | .charged => l.reverseLimits.feeFor amount
  | .waived => .zero

/-- Refuses unless the surface is open, the caller a relayer and the eon the
    current one. -/
def checkRelayed (g : Registry) (chain : Chain) (sender : Address) (eon : UInt64)
    (l : Ledger) : Except Error Unit := do
  l.checkOpen .relayerApi chain.height
  g.require [.relayer] sender
  checkEon l.relayEon eon

/-- Books a relayed amount. The result goes with what is left to pay. -/
def settle (amount fee : Amount) (l : Ledger) : Except Error (Ledger × Amount) := do
  checkPositive amount
  l.reverseLimits.check amount
  let allowance ← consume l.allowance amount
  let lowered ← l.lowerSupply amount
  let fees ← sum l.fees fee
  let paid ← difference amount fee
  return ({ lowered with allowance := allowance, fees := fees }, paid)

/-- The payment of what is left after the fee, if anything is. -/
def payIfAny (l : Ledger) (recipient : Address) (amount : Amount) : Option TokenCall :=
  if amount = .zero then none else some (l.pay recipient amount)

/-- Gives back the forward swap `id`, which is possible once. -/
def refund (g : Registry) (chain : Chain) (sender : Address) (mode : RefundFee) (id : UInt64)
    (recipient : String) (amount : Amount) (eon : UInt64) (l : Ledger) :
    Except Error Outcome := do
  l.checkRelayed g chain sender eon
  ensure (id < l.nextSwapId) (.unknownSwap id l.nextSwapId)
  ensure (g.refunded id = false) (.alreadyRefunded id)
  let recipient ← checkAddress recipient
  let fee := l.refundFee mode amount
  let (settled, paid) ← l.settle amount fee
  return {
    ledger := settled
    change := .refund id amount
    call := l.payIfAny recipient paid
    event := .refunded id recipient paid fee }

/-- Pays out value that left the remote chain in the named transaction. -/
def reverseSwap (g : Registry) (chain : Chain) (sender : Address) (rid : UInt64)
    (recipient originFrom originTx : String) (amount : Amount) (eon : UInt64) (l : Ledger) :
    Except Error Outcome := do
  l.checkRelayed g chain sender eon
  let recipient ← checkAddress recipient
  let fee := l.reverseLimits.feeFor amount
  let (settled, paid) ← l.settle amount fee
  return {
    ledger := settled
    call := l.payIfAny recipient paid
    event := .reverseSwapped rid recipient originFrom originTx paid fee }

/-- Moves on to the next relay eon. -/
def rotateEon (g : Registry) (chain : Chain) (sender : Address) (l : Ledger) :
    Except Error Outcome := do
  l.checkOpen .relayerApi chain.height
  g.require [.relayer] sender
  let eon := nextEon l.relayEon
  return { ledger := { l with relayEon := eon }, event := .eonRotated eon }

end Ledger

end BridgeCustody
