import BridgeCustody.Bytes.Keccak
import BridgeCustody.Ledger.Basic
import BridgeCustody.Release

/-!
# Events of the Ledger

Every successful call is reported as one event. Watchers see it as a list of
named texts, the first of which names the action. An event carries exactly what
its report shows, so what a call did to the ledger can be told from it.

## Main definitions

* `Ledger.Event`: What a call is reported as.
* `Ledger.Event.attributes`: The report.
-/

namespace BridgeCustody

namespace Ledger

/-- What a successful call is reported as. -/
inductive Event
  | deployed (admin token : Address) (publicPause relayerPause earliestDelete : UInt64)
  | migrated
  | swapped (id : UInt64) (sender : Address) (destination : String) (amount : Amount)
  | refunded (id : UInt64) (recipient : Address) (paid fee : Amount)
  | reverseSwapped (rid : UInt64) (recipient : Address) (originFrom originTx : String)
      (paid fee : Amount)
  | eonRotated (eon : UInt64)
  | pauseMoved (surface : Surface) (since : UInt64)
  | deposited (sender : Address) (amount : Amount)
  | withdrawn (target : Address) (amount : Amount)
  | minted (amount : Amount)
  | burned (amount : Amount)
  | feesWithdrawn (target : Address) (amount : Amount)
  | excessWithdrawn (target : Address) (amount : Amount)
  | closed (target : Address) (amount : Amount)
  | capSet (cap : Amount)
  | swapLimitsSet (limits : SwapLimits)
  | reverseLimitsSet (limits : ReverseLimits)
  | allowanceSet (amount : Amount)
  | approverCapSet (amount : Amount)
  | roleGranted (role : Role) (holder : Address)
  | roleRevoked (role : Role) (holder : Address)
  | roleRenounced (role : Role) (holder : Address)
deriving DecidableEq

/-- The report of an event. -/
def Event.attributes : Event → List (String × String)
  | deployed admin token publicPause relayerPause earliestDelete => [
      ("action", "instantiate"),
      ("admin", admin.text),
      ("token", token.text),
      ("paused_since_block_public_api", Decimal.text publicPause.toNat),
      ("paused_since_block_relayer_api", Decimal.text relayerPause.toNat),
      ("earliest_delete", Decimal.text earliestDelete.toNat)]
  | migrated => [("action", "migrate"), ("version", Release.current)]
  | swapped id sender destination amount => [
      ("action", "swap"),
      ("swap_id", Decimal.text id.toNat),
      ("from", sender.text),
      ("to", destination),
      ("indexed_to", Keccak.indexKey destination),
      ("amount", amount.text)]
  | refunded id recipient paid fee => [
      ("action", "swap_refund"),
      ("swap_id", Decimal.text id.toNat),
      ("to", recipient.text),
      ("refunded_amount", paid.text),
      ("fee", fee.text)]
  | reverseSwapped rid recipient originFrom originTx paid fee => [
      ("action", "reverse_swap"),
      ("rid", Decimal.text rid.toNat),
      ("to", recipient.text),
      ("from", originFrom),
      ("indexed_from", Keccak.indexKey originFrom),
      ("origin_tx_hash", originTx),
      ("effective_amount", paid.text),
      ("fee", fee.text)]
  | eonRotated eon => [("action", "new_relay_eon"), ("eon", Decimal.text eon.toNat)]
  | pauseMoved surface since => [
      ("action", surface.action),
      ("since_block", Decimal.text since.toNat)]
  | deposited sender amount => [
      ("action", "deposit"), ("from", sender.text), ("amount", amount.text)]
  | withdrawn target amount => [
      ("action", "withdraw"), ("target", target.text), ("amount", amount.text)]
  | minted amount => [("action", "mint"), ("amount", amount.text)]
  | burned amount => [("action", "burn"), ("amount", amount.text)]
  | feesWithdrawn target amount => [
      ("action", "fees_withdrawal"), ("target", target.text), ("amount", amount.text)]
  | excessWithdrawn target amount => [
      ("action", "excess_funds_withdrawal"), ("target", target.text), ("amount", amount.text)]
  | closed target amount => [
      ("action", "delete_contract"), ("target", target.text), ("amount", amount.text)]
  | capSet cap => [("action", "cap_update"), ("cap", cap.text)]
  | swapLimitsSet limits => [
      ("action", "swap_limits_update"), ("min", limits.min.text), ("max", limits.max.text)]
  | reverseLimitsSet limits => [
      ("action", "reverse_swap_limits_update"),
      ("min", limits.min.text),
      ("max", limits.max.text),
      ("fee", limits.fee.text)]
  | allowanceSet amount => [
      ("action", "reverse_aggregated_allowance_update"), ("amount", amount.text)]
  | approverCapSet amount => [
      ("action", "reverse_aggregated_allowance_approver_cap_update"), ("amount", amount.text)]
  | roleGranted role holder => [
      ("action", "grant_role"), ("role", role.name), ("address", holder.text)]
  | roleRevoked role holder => [
      ("action", "revoke_role"), ("role", role.name), ("address", holder.text)]
  | roleRenounced role holder => [
      ("action", "renounce_role"), ("role", role.name), ("address", holder.text)]

end Ledger

end BridgeCustody
