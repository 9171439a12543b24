import BridgeCustody.Chain
import BridgeCustody.Ledger.Event
import BridgeCustody.Ledger.Registry
import BridgeCustody.Token.Message

/-!
# Outcomes of Operations

What a successful operation comes to: the ledger as it is to be stored, at most
one change beside it, at most one message to the token, and the event that the
call is reported as.

## Main definitions

* `Ledger.Outcome`: The four together.
* `Ledger.pay`, `Ledger.pull`: Messages that move tokens out and in.
-/

namespace BridgeCustody

namespace Ledger

/-- What a successful operation comes to. -/
structure Outcome where
  ledger : Ledger
  change : Change := .nothing
  call : Option TokenCall := none
  event : Event
deriving DecidableEq

/-- The message that pays an amount out of custody. -/
def pay (l : Ledger) (recipient : Address) (amount : Amount) : TokenCall :=
  .plain l.token (.transfer recipient amount)

/-- The message that takes an amount from its owner into custody. -/
def pull (l : Ledger) (chain : Chain) (owner : Address) (amount : Amount) : TokenCall :=
  .plain l.token (.transferFrom owner chain.self amount)

end Ledger

end BridgeCustody
