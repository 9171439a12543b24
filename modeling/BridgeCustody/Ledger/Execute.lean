import BridgeCustody.Ledger.Credit
import BridgeCustody.Ledger.Custody
import BridgeCustody.Ledger.Relay
import BridgeCustody.Ledger.Settings

/-!
# Calls of the Ledger

A call loads the ledger, is refused if the ledger was deleted, runs the
operation that its message names, and stores what came of it. A refused call
leaves no new store at all, so nothing of it remains.

## Main definitions

* `Ledger.operate`: The operation that a message names.
* `Ledger.execute`: A call on a store.
* `Ledger.migrate`: Renews the release record.
-/

namespace BridgeCustody

namespace Ledger

variable [AddressRule]

/-- Runs the operation that a message names. -/
def operate (g : Registry) (chain : Chain) (sender : Address) (l : Ledger) :
    Message → Except Error Outcome
  | .swap amount destination => l.swap chain sender amount destination
  | .receive owner amount payload => l.receive g chain sender owner amount payload
  | .refund id recipient amount eon => l.refund g chain sender .charged id recipient amount eon
  | .refundInFull id recipient amount eon =>
    l.refund g chain sender .waived id recipient amount eon
  | .reverseSwap rid recipient originFrom originTx amount eon =>
    l.reverseSwap g chain sender rid recipient originFrom originTx amount eon
  | .newRelayEon => l.rotateEon g chain sender
  | .pausePublicApi since => l.movePause g chain sender .publicApi since
  | .pauseRelayerApi since => l.movePause g chain sender .relayerApi since
  | .deposit amount => l.deposit g chain sender amount
  | .withdraw target amount => l.withdraw g sender target amount
  | .mint amount => l.mint g chain sender amount
  | .burn amount => l.burn g sender amount
  | .withdrawFees target => l.withdrawFees g sender target
  | .withdrawExcess target => l.withdrawExcess g chain sender target
  | .delete target => l.close g chain sender target
  | .setCap cap => l.setCap g sender cap
  | .setSwapLimits limits => l.setSwapLimits g sender limits
  | .setReverseLimits limits => l.setReverseLimits g sender limits
  | .setAllowance amount => l.setAllowance g sender amount
  | .setApproverCap amount => l.setApproverCap g sender amount
  | .grantRole role address => l.grantRole g sender role address
  | .revokeRole role address => l.revokeRole g sender role address
  | .renounceRole role => l.renounceRole g sender role

/-- What the world sees of a successful call. -/
structure Receipt where
  call : Option TokenCall
  event : Event
deriving DecidableEq

/-- A store after an outcome. -/
def Outcome.commit (out : Outcome) (s : Store) : Store :=
  item.write out.ledger (out.change.apply s)

/-- A call on a store. -/
def execute (chain : Chain) (sender : Address) (message : Message) (s : Store) :
    Except Error (Store × Receipt) := do
  let l ← ofHost (item.load s)
  ensure (l.deleted = false) .deleted
  let out ← l.operate (.ofStore s) chain sender message
  return (out.commit s, ⟨out.call, out.event⟩)

/-- Renews the release record and touches nothing else. -/
def migrate (s : Store) : Store × Receipt :=
  (Release.item.write .ofLedger s, ⟨none, .migrated⟩)

end Ledger

end BridgeCustody
