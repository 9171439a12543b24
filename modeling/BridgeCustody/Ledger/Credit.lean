import BridgeCustody.Ledger.Message
import BridgeCustody.Ledger.Outcome
import BridgeCustody.Text.Blank

/-!
# Taking Value In

Swaps and deposits raise the supply. Both come in two ways. A direct call has
the ledger pull the tokens from the caller; a hooked call arrives from the token
itself, which has credited the ledger already, and names whose tokens they were.
The bookkeeping is the same function in either case.

## Main definitions

* `Ledger.bookSwap`, `Ledger.bookDeposit`: The bookkeeping.
* `Ledger.swap`, `Ledger.deposit`: The direct ways.
* `Ledger.receive`: The hooked way.
-/

namespace BridgeCustody

namespace Ledger

variable [AddressRule]

/-- Books a forward swap of an amount that belonged to `sender`. -/
def bookSwap (chain : Chain) (sender : Address) (amount : Amount) (destination : String)
    (l : Ledger) : Except Error Outcome := do
  l.checkOpen .publicApi chain.height
  ensure (amount ≠ .zero) (.invalidAmount .zeroSwap)
  ensure (Text.isBlank destination = false) .blankDestination
  l.swapLimits.check amount
  let raised ← l.raiseSupply amount
  match Word.next? l.nextSwapId with
  | none => .error (.host .swapIdsExhausted)
  | some next =>
    return {
      ledger := { raised with nextSwapId := next }
      event := .swapped l.nextSwapId sender destination amount }

/-- Books a deposit of an amount that belonged to `sender`. -/
def bookDeposit (g : Registry) (chain : Chain) (sender : Address) (amount : Amount)
    (l : Ledger) : Except Error Outcome := do
  l.checkOpen .publicApi chain.height
  g.require [.admin] sender
  checkPositive amount
  let raised ← l.raiseSupply amount
  return { ledger := raised, event := .deposited sender amount }

/-- A swap that pulls the tokens from the caller. -/
def swap (chain : Chain) (sender : Address) (amount : Amount) (destination : String)
    (l : Ledger) : Except Error Outcome := do
  let out ← l.bookSwap chain sender amount destination
  return { out with call := some (l.pull chain sender amount) }

/-- A deposit that pulls the tokens from the caller. -/
def deposit (g : Registry) (chain : Chain) (sender : Address) (amount : Amount)
    (l : Ledger) : Except Error Outcome := do
  let out ← l.bookDeposit g chain sender amount
  return { out with call := some (l.pull chain sender amount) }

/-- What the payload of an announced credit asks for. -/
def Hook.ofPayload (payload : Payload) : Except Fault Hook :=
  match (Bytes.toText? payload.bytes).bind Wire.decode? with
  | some hook => .ok hook
  | none => .error .unreadable

/-- A swap or deposit of tokens that the token has credited already. -/
def receive (g : Registry) (chain : Chain) (sender : Address) (owner : String) (amount : Amount)
    (payload : Payload) (l : Ledger) : Except Error Outcome := do
  ensure (sender = l.token) (.unrecognizedToken sender)
  let owner ← checkAddress owner
  let hook ← ofHost (Hook.ofPayload payload)
  match hook with
  | .swap destination => l.bookSwap chain owner amount destination
  | .deposit => l.bookDeposit g chain owner amount

end Ledger

end BridgeCustody
