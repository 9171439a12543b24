import BridgeCustody.Address.NormalForm
import BridgeCustody.Token.Balance

/-!
# The Chain During a Call

What a contract sees of the chain while it works on a call: its own address,
the height of the current block, and the tokens it may ask. How the host tells
addresses from other texts is not part of this, because it does not change from
call to call.

## Main definitions

* `Chain`: The surroundings of a call.
* `Chain.balance`: The contract's own balance of a token.
-/

namespace BridgeCustody

/-- The surroundings of a call. -/
structure Chain where
  self : Address
  height : UInt64
  reply : (token account : Address) → TokenReply

/-- The contract's own balance of a token, as the token states it. -/
def Chain.balance (chain : Chain) (token : Address) : Except Fault Amount :=
  (chain.reply token chain.self).balance token

end BridgeCustody
